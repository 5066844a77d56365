import NodeIdGen.Generate.Accessor
import NodeIdGen.Proofs.Schema.Language
import NodeIdGen.Proofs.Schema.RoundTrip
import NodeIdGen.Proofs.Syntax.Rules

/-!
# Declarations in source form, as tokens

Each declaration can be written as one item: a record as a structure with its fields in braces or in
parentheses, a variant as an enumeration without data, a flag set as a flag block with one entry.
The grammar reads these items back, and they stand for the declarations they were written from.

Names have to be identifiers for this. A marker has to be one of the two with a meaning or an
identifier that means nothing else, and a record in parentheses has to name its fields by their
positions.
-/

namespace NodeIdGen.Schema

open NodeIdGen.Syntax NodeIdGen.Syntax.Parser

/-! ## Markers -/

/-- The marker can be written as an attribute. -/
def IsMarker (m : String) : Prop :=
  m = identifierField ∨ m = noIdentifier ∨
    isIdentifier m = true ∧ m ∉ ["doc", "node_id", "no_node_id"]

instance (m : String) : Decidable (IsMarker m) :=
  inferInstanceAs (Decidable (_ ∨ _ ∨ _ ∧ _))

/-- The name of the attribute for a marker. -/
def attributeName (m : String) : String :=
  if m = identifierField then "node_id"
  else if m = noIdentifier then "no_node_id"
  else m

namespace AttrSet

/-- Every marker can be written as an attribute. -/
def Writable (s : AttrSet) : Prop :=
  ∀ m ∈ s, IsMarker m

instance (s : AttrSet) : Decidable s.Writable :=
  inferInstanceAs (Decidable (∀ m ∈ s.items, IsMarker m))

def attributeNames (s : AttrSet) : List String :=
  s.items.map attributeName

def attributes (s : AttrSet) : List Attribute :=
  s.attributeNames.map attributeOf

def tokens (s : AttrSet) : List Token :=
  s.attributeNames.flatMap attributeTokens

end AttrSet

theorem isIdentifier_attributeName {m : String} (h : IsMarker m) :
    isIdentifier (attributeName m) = true := by
  rcases h with rfl | rfl | ⟨hm, -⟩
  · decide +kernel
  · decide +kernel
  · unfold attributeName
    split
    · decide +kernel
    · split
      · decide +kernel
      · exact hm

theorem markerOf?_attributeOf {m : String} (h : IsMarker m) :
    markerOf? (attributeOf (attributeName m)) = some m := by
  rcases h with rfl | rfl | ⟨hm, hother⟩
  · rfl
  · rfl
  · have hid : m ≠ identifierField := by
      rintro rfl
      exact absurd hm (by decide +kernel)
    have hno : m ≠ noIdentifier := by
      rintro rfl
      exact absurd hm (by decide +kernel)
    simp only [List.mem_cons, List.not_mem_nil, or_false, not_or] at hother
    rw [attributeName, if_neg hid, if_neg hno]
    simp [markerOf?, attributeOf, hother, Path.text, Path.ofName]

variable {s : AttrSet}

theorem AttrSet.Writable.identifiers (h : s.Writable) :
    ∀ n ∈ s.attributeNames, isIdentifier n = true := by
  intro n hn
  obtain ⟨m, hm, rfl⟩ := List.mem_map.1 hn
  exact isIdentifier_attributeName (h m hm)

theorem markersOf_attributes (h : s.Writable) : markersOf s.attributes = s := by
  have back : s.attributes.filterMap markerOf? = s.items := by
    rw [AttrSet.attributes, AttrSet.attributeNames, List.map_map, List.filterMap_map]
    have each : ∀ m ∈ s.items, markerOf? (attributeOf (attributeName m)) = some m :=
      fun m hm => markerOf?_attributeOf (h m hm)
    exact (List.filterMap_congr each).trans List.filterMap_some
  rw [markersOf, back, s.ofList_items]

theorem bare_attributes (s : AttrSet) : Bare s.attributes := by
  intro a ha hload
  obtain ⟨n, -, rfl⟩ := List.mem_map.1 ha
  exact absurd hload.2 Bool.false_ne_true

theorem runs_tokens (g : Grammar) (h : s.Writable) {us : Rest} (hend : us.atSymbol "#" = false) :
    Runs (outerAttributes g) (s.tokens ++ us) (.ok s.attributes) us :=
  runs_attributes g (fun n hn => (isIdentifier_iff.1 (h.identifiers n hn)).2) hend

/-! ## Fields -/

open Generate (nodeIdType)

namespace Field

def namedTokens (f : Field) : List Token :=
  f.attrs.tokens ++ [.ident f.name, .punct ':' false, .ident nodeIdType]

/-- A field without its name, in tokens. -/
def positionalTokens (f : Field) : List Token :=
  f.attrs.tokens ++ [.ident nodeIdType]

/-- A field as the grammar reads it. -/
def fieldDecl (round : Bool) (f : Field) : FieldDecl :=
  ⟨f.attrs.attributes, if round then none else some f.name⟩

end Field

/-- The fields of a structure in parentheses or in braces. -/
def bodyTokens (round : Bool) (fs : List Field) : List Token :=
  if round then
    [.group .parenthesis (fs.flatMap fun f => f.positionalTokens ++ [.punct ',' false]),
      .punct ';' false]
  else
    [.group .brace (fs.flatMap fun f => f.namedTokens ++ [.punct ',' false])]

variable {fs : List Field} {ts : Rest}

theorem runs_fieldType (k : Nat) : Runs ((grammar (k + 1)).ty true)
    (.ident nodeIdType :: .punct ',' false :: ts) (.ok (.path (.ofName nodeIdType)))
    (.punct ',' false :: ts) :=
  runs_ty k (by decide) ⟨rfl, rfl, rfl, rfl⟩

theorem runs_namedFields (k n : Nat) (hattrs : ∀ f ∈ fs, f.attrs.Writable)
    (hname : ∀ f ∈ fs, isReserved f.name = false) :
    Runs (namedFields (grammar (k + 1)) (n + 1))
      (.group .brace (fs.flatMap fun f => f.namedTokens ++ [.punct ',' false]) :: ts)
      (.ok (fs.map (Field.fieldDecl false))) ts := by
  rw [← Except.mapM_ok]
  refine Runs.group _ (Runs.commaSeparated fun f hf ts => ?_)
  have unnamed : Rest.atWord "_" (.ident f.name :: .punct ':' false :: .ident nodeIdType ::
      .punct ',' false :: ts) = false :=
    decide_eq_false (ne_of_not_isReserved (hname f hf) (by decide))
  rw [Field.namedTokens, List.append_assoc]
  refine (runs_tokens _ (hattrs f hf) rfl).bind ((runs_visibility (hname f hf)).discard.bind ?_)
  refine (Runs.test unnamed).bind ((runs_name (hname f hf)).bind ?_)
  refine Runs.bind (a := ()) (fun _ => rfl) ((Runs.test rfl).bind ?_)
  exact (runs_fieldType k).discard.bind (Runs.pure _)

theorem runs_positionalFields (k : Nat) (hattrs : ∀ f ∈ fs, f.attrs.Writable) :
    Runs (positionalFields (grammar (k + 1)))
      (.group .parenthesis (fs.flatMap fun f => f.positionalTokens ++ [.punct ',' false]) :: ts)
      (.ok (fs.map (Field.fieldDecl true))) ts := by
  rw [← Except.mapM_ok]
  refine Runs.group _ (Runs.commaSeparated fun f hf ts => ?_)
  rw [Field.positionalTokens, List.append_assoc]
  refine (runs_tokens _ (hattrs f hf) rfl).bind (Runs.bind (a := ()) (fun _ => rfl) ?_)
  exact (runs_fieldType k).discard.bind (Runs.pure _)

theorem runs_structBody (k : Nat) (round : Bool) (hattrs : ∀ f ∈ fs, f.attrs.Writable)
    (hname : round = false → ∀ f ∈ fs, isReserved f.name = false) :
    Runs (structBody (grammar (k + 1))) (bodyTokens round fs ++ ts)
      (.ok (fs.map (Field.fieldDecl round))) ts := by
  -- no `where` clause stands in front of the fields, whatever their brackets are
  cases round with
  | true =>
      have fields := @runs_positionalFields fs (.punct ';' false :: ts) k hattrs
      refine Runs.bind (a := false) (fun _ => rfl) (Runs.look.bind ?_)
      exact fields.bind fun _ => rfl
  | false =>
      refine Runs.bind (a := false) (fun _ => rfl) (Runs.look.bind (Runs.look.bind ?_))
      exact runs_namedFields k _ hattrs (hname rfl)

/-! ## Records -/

namespace Record

/-- A record can be written in this form: its names are identifiers, or its fields are named by
their positions. -/
structure Writable (round : Bool) (r : Record) : Prop where
  name : isIdentifier r.name = true
  attrs : r.attrs.Writable
  fieldAttrs : ∀ f ∈ r.fields, f.attrs.Writable
  named : round = false → ∀ f ∈ r.fields, isIdentifier f.name = true
  positional : round = true →
    r.fields.map Field.name = (List.range r.fields.length).map (toString ·)

instance (round : Bool) (r : Record) : Decidable (r.Writable round) :=
  decidable_of_iff
    (isIdentifier r.name = true ∧ r.attrs.Writable ∧ (∀ f ∈ r.fields, f.attrs.Writable) ∧
      (round = false → ∀ f ∈ r.fields, isIdentifier f.name = true) ∧
      (round = true → r.fields.map Field.name = (List.range r.fields.length).map (toString ·)))
    ⟨fun ⟨h₁, h₂, h₃, h₄, h₅⟩ => ⟨h₁, h₂, h₃, h₄, h₅⟩,
      fun ⟨h₁, h₂, h₃, h₄, h₅⟩ => ⟨h₁, h₂, h₃, h₄, h₅⟩⟩

/-- A record as a structure, in tokens. -/
def tokens (round : Bool) (r : Record) : List Token :=
  r.attrs.tokens ++ (.ident "struct" :: .ident r.name :: bodyTokens round r.fields)

/-- A record as the structure that the grammar reads. -/
def structDecl (round : Bool) (r : Record) : StructDecl :=
  ⟨r.attrs.attributes, r.name, false, r.fields.map (Field.fieldDecl round)⟩

end Record

theorem runs_struct (k : Nat) {round : Bool} {r : Record} (h : r.Writable round) :
    Runs (grammar (k + 2)).item (r.tokens round ++ ts) (.ok (.struct (r.structDecl round))) ts := by
  have generic : Runs (generics (grammar (k + 1))) (bodyTokens round r.fields ++ ts) (.ok false)
      (bodyTokens round r.fields ++ ts) := by
    cases round <;> exact fun _ => rfl
  have fields := @runs_structBody r.fields ts k round h.fieldAttrs fun hround f hf =>
    (isIdentifier_iff.1 (h.named hround f hf)).2
  rw [Record.tokens, List.append_assoc]
  refine (runs_tokens _ h.attrs rfl).bind (Runs.bind (a := false) (fun _ => rfl) ?_)
  refine Runs.look.bind (Runs.bind (a := false) (fun _ => rfl) ?_)
  refine Runs.bind (a := ()) (fun _ => rfl) ((runs_name (isIdentifier_iff.1 h.name).2).bind ?_)
  exact generic.bind (fields.bind (Runs.pure _))

/-- A field in parentheses is named by its place, and that is its name. -/
theorem mapIdx_fieldOf {round : Bool} {r : Record} (h : r.Writable round) :
    (r.fields.map (Field.fieldDecl round)).mapIdx fieldOf = r.fields := by
  refine List.ext_getElem (by simp) fun i hi hi' => ?_
  have attrs := markersOf_attributes (h.fieldAttrs _ (List.getElem_mem hi'))
  rw [List.getElem_mapIdx, List.getElem_map]
  cases round with
  | false =>
      show (⟨r.fields[i].name, markersOf r.fields[i].attrs.attributes⟩ : Field) = r.fields[i]
      rw [attrs]
  | true =>
      have place : r.fields[i].name = toString i := by
        have := congrArg (·[i]?) (h.positional rfl)
        simpa [hi'] using this
      show (⟨toString i, markersOf r.fields[i].attrs.attributes⟩ : Field) = r.fields[i]
      rw [attrs, ← place]

theorem standsFor_struct {round : Bool} {r : Record} (h : r.Writable round) :
    StandsFor (.struct (r.structDecl round)) [.record r] := by
  have record : recordOf (r.structDecl round) = r := by
    have attrs : markersOf (r.structDecl round).attrs = r.attrs := markersOf_attributes h.attrs
    have fields : (r.structDecl round).fields.mapIdx fieldOf = r.fields := mapIdx_fieldOf h
    rw [recordOf, attrs, fields]
    rfl
  have bare : Bare (attrsOf (r.structDecl round)) := by
    refine bare_append.2 ⟨bare_attributes _, fun a ha => ?_⟩
    simp only [Record.structDecl, List.flatMap_map, List.mem_flatMap] at ha
    obtain ⟨f, -, ha⟩ := ha
    exact bare_attributes _ a ha
  have stands := StandsFor.record (r.structDecl round) rfl bare
  rwa [record] at stands

/-! ## Variants and flag sets -/

/-- A declaration whose parts are only names can be written. -/
structure WritableParts (name : String) (attrs : AttrSet) (parts : List String) : Prop where
  name : isIdentifier name = true
  attrs : attrs.Writable
  parts : ∀ n ∈ parts, isIdentifier n = true

instance (name : String) (attrs : AttrSet) (parts : List String) :
    Decidable (WritableParts name attrs parts) :=
  decidable_of_iff
    (isIdentifier name = true ∧ attrs.Writable ∧ ∀ n ∈ parts, isIdentifier n = true)
    ⟨fun ⟨h₁, h₂, h₃⟩ => ⟨h₁, h₂, h₃⟩, fun ⟨h₁, h₂, h₃⟩ => ⟨h₁, h₂, h₃⟩⟩

namespace Variant

/-- A variant as an enumeration, in tokens. -/
def tokens (v : Variant) : List Token :=
  v.attrs.tokens ++ [.ident "enum", .ident v.name,
    .group .brace (v.variants.flatMap fun n => [.ident n] ++ [.punct ',' false])]

/-- A variant as the enumeration that the grammar reads. -/
def enumDecl (v : Variant) : EnumDecl :=
  ⟨v.attrs.attributes, v.name, v.variants⟩

end Variant

theorem runs_alternative (g : Grammar) {n : String} (hn : isReserved n = false) :
    Runs (alternative g) ([.ident n] ++ .punct ',' false :: ts) (.ok n)
      (.punct ',' false :: ts) := by
  refine Runs.bind (a := ()) (fun _ => rfl) ((runs_visibility hn).discard.bind ?_)
  exact (runs_name hn).bind fun _ => rfl

theorem runs_enum (k : Nat) {v : Variant} (h : WritableParts v.name v.attrs v.variants) :
    Runs (grammar (k + 2)).item (v.tokens ++ ts) (.ok (.enum v.enumDecl)) ts := by
  have alternatives : Runs (group .brace (commaSeparated (alternative (grammar (k + 1)))))
      (.group .brace (v.variants.flatMap fun n => [.ident n] ++ [.punct ',' false]) :: ts)
      (.ok (v.variants.map id)) ts := by
    rw [← Except.mapM_ok]
    refine Runs.group _ (Runs.commaSeparated fun n hn ts => ?_)
    exact runs_alternative _ (isIdentifier_iff.1 (h.parts n hn)).2
  rw [List.map_id] at alternatives
  rw [Variant.tokens, List.append_assoc]
  refine (runs_tokens _ h.attrs rfl).bind (Runs.bind (a := false) (fun _ => rfl) ?_)
  refine Runs.look.bind (Runs.bind (a := false) (fun _ => rfl) ?_)
  refine Runs.bind (a := ()) (fun _ => rfl) ((runs_name (isIdentifier_iff.1 h.name).2).bind ?_)
  -- neither generic parameters nor a `where` clause
  refine Runs.bind (a := ()) (fun _ => rfl) (Runs.bind (a := ()) (fun _ => rfl) ?_)
  exact alternatives.bind (Runs.pure _)

theorem standsFor_enum {v : Variant} (h : WritableParts v.name v.attrs v.variants) :
    StandsFor (.enum v.enumDecl) [.variant v] := by
  have variant : variantOf v.enumDecl = v := by
    have attrs : markersOf v.enumDecl.attrs = v.attrs := markersOf_attributes h.attrs
    rw [variantOf, attrs]
    rfl
  have stands := StandsFor.variant v.enumDecl (bare_attributes _)
  rwa [variant] at stands

/-- The type of the bits of a flag set. -/
def bitsType : String := "u32"

/-- A constant with the value zero, in tokens. -/
def flagTokens (n : String) : List Token :=
  [.ident "const", .ident n, .punct '=' false, .literal (.integer 0 ""), .punct ';' false]

namespace FlagSet

/-- A flag set as the entry of a flag block, in tokens. -/
def entryTokens (f : FlagSet) : List Token :=
  f.attrs.tokens ++ [.ident "struct", .ident f.name, .punct ':' false, .ident bitsType,
    .group .brace (f.flags.flatMap flagTokens)]

/-- A flag set as a flag block, in tokens. -/
def tokens (f : FlagSet) : List Token :=
  [.ident "bitflags", .punct '!' false, .group .brace f.entryTokens]

/-- A flag set as the entry that the grammar reads. -/
def flagDecl (f : FlagSet) : FlagDecl :=
  ⟨f.attrs.attributes, f.name, f.flags⟩

end FlagSet

theorem runs_invocation (k : Nat) (f : FlagSet) :
    Runs (grammar (k + 2)).item (f.tokens ++ ts)
      (.ok (.invocation (.ofName "bitflags") f.entryTokens)) ts :=
  fun _ => rfl

theorem runs_flagConstant (k : Nat) {n : String} (hn : isReserved n = false) :
    Runs (flagConstant (grammar (k + 6))) (flagTokens n ++ ts) (.ok (some n)) ts := by
  have value : Runs ((grammar (k + 6)).expr true)
      (.literal (.integer 0 "") :: .punct ';' false :: ts) (.ok .other) (.punct ';' false :: ts) :=
    fun _ => rfl
  refine Runs.bind (a := ()) (fun _ => rfl) (Runs.bind (a := ()) (fun _ => rfl) ?_)
  refine (runs_word?_of_ne (ne_of_not_isReserved hn (by decide))).bind ((runs_name hn).map.bind ?_)
  exact Runs.bind (a := ()) (fun _ => rfl) (value.discard.bind fun _ => rfl)

theorem runs_flagDecl (k : Nat) {f : FlagSet} (h : WritableParts f.name f.attrs f.flags) :
    Runs (Syntax.flagDecl (grammar (k + 6))) (f.entryTokens ++ ts) (.ok f.flagDecl) ts := by
  have flags : Runs (group .brace (toEnd (flagConstant (grammar (k + 6)))))
      (.group .brace (f.flags.flatMap flagTokens) :: ts) (.ok (f.flags.map some)) ts := by
    rw [← Except.mapM_ok]
    refine Runs.group _ (Runs.toEnd (fun n _ => List.cons_ne_nil _ _) fun n hn ts => ?_)
    exact runs_flagConstant k (isIdentifier_iff.1 (h.parts n hn)).2
  have bits : Runs ((grammar (k + 6)).ty true)
      (.ident bitsType :: .group .brace (f.flags.flatMap flagTokens) :: ts)
      (.ok (.path (.ofName bitsType))) (.group .brace (f.flags.flatMap flagTokens) :: ts) :=
    runs_ty _ (by decide) ⟨rfl, rfl, rfl, rfl⟩
  have entry : f.flagDecl = ⟨f.attrs.attributes, f.name, (f.flags.map some).filterMap id⟩ := by
    simp [FlagSet.flagDecl]
  rw [FlagSet.entryTokens, List.append_assoc, entry]
  refine (runs_tokens _ h.attrs rfl).bind (Runs.bind (a := ()) (fun _ => rfl) ?_)
  refine Runs.bind (a := ()) (fun _ => rfl) ((runs_name (isIdentifier_iff.1 h.name).2).bind ?_)
  refine Runs.bind (a := ()) (fun _ => rfl) (bits.discard.bind ?_)
  exact flags.bind (Runs.pure _)

theorem parseFlags_entryTokens {f : FlagSet} (h : WritableParts f.name f.attrs f.flags) :
    parseFlags f.entryTokens = .ok [f.flagDecl] := by
  have nonempty : f.entryTokens ≠ [] := by simp [FlagSet.entryTokens]
  have all : Runs (flagDecls (grammar (nestingBound f.entryTokens)))
      ([f].flatMap FlagSet.entryTokens) ([f].mapM fun f => .ok f.flagDecl) [] :=
    Runs.toEnd (List.forall_mem_singleton.2 nonempty)
      (List.forall_mem_singleton.2 fun ts => runs_flagDecl _ h)
  rw [List.flatMap_singleton] at all
  exact Runs.parseAll all

theorem standsFor_invocation {f : FlagSet} (h : WritableParts f.name f.attrs f.flags) :
    StandsFor (.invocation (.ofName "bitflags") f.entryTokens) [.flagSet f] := by
  have flagSet : flagSetOf f.flagDecl = f := by
    have attrs : markersOf f.flagDecl.attrs = f.attrs := markersOf_attributes h.attrs
    rw [flagSetOf, attrs]
    rfl
  have stands := StandsFor.flagSets (.ofName "bitflags") f.entryTokens [f.flagDecl] rfl
    (parseFlags_eq_ok.1 (parseFlags_entryTokens h))
    (List.forall_mem_singleton.2 (bare_attributes _))
  rwa [List.map_singleton, flagSet] at stands

end NodeIdGen.Schema
