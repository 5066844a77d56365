import Mathlib.Data.Set.List
import NodeIdGen.Diagnostic.Codec
import NodeIdGen.Proofs.Schema.GivenForms
import NodeIdGen.Proofs.Schema.RoundTrip
import NodeIdGen.Proofs.Text.ByteOrder

/-!
# The canonical encoding of a declaration

Of all values that a declaration can be given as, one is canonical: an object with every member of
its kind, in which markers are listed once each in the order of their bytes. It is the one that is
written, so that writing a declaration again after reading it forgets in which form it was given and
nothing else. Diagnostics have one encoding too, and are read back from it.
-/

namespace NodeIdGen.Schema

open NodeIdGen.Json NodeIdGen.Text

/-! ## Canonical values -/

/-- The markers are listed in the order of their bytes, each once. -/
inductive CanonicalMarkers : Json → Prop
  | mk {ms : List String} (h : ms.Pairwise fun m n => utf8 m < utf8 n) :
      CanonicalMarkers (.array (ms.map .string))

/-- A field has its name and its markers. -/
inductive CanonicalField : Json → Prop
  | mk (name : String) {attrs : Json} (hattrs : CanonicalMarkers attrs) :
      CanonicalField (.object [("name", .string name), ("attrs", attrs)])

/-- A part of a declaration: a field, or the name of an alternative or of a flag. -/
def CanonicalPart : Kind → Json → Prop
  | .record, v => CanonicalField v
  | .variant, v | .flagSet, v => ∃ s, .string s = v

/-- A declaration has its kind, its name, its markers and its parts, in this order. -/
inductive CanonicalDeclaration : Json → Prop
  | mk (k : Kind) (name : String) {attrs : Json} {parts : List Json}
      (hattrs : CanonicalMarkers attrs) (hparts : ∀ p ∈ parts, CanonicalPart k p) :
      CanonicalDeclaration (.object [("kind", .string k.name), ("name", .string name),
        ("attrs", attrs), (k.partsName, .array parts)])

theorem canonicalMarkers_encode (s : AttrSet) : CanonicalMarkers s.encode :=
  .mk (s.ascending.imp utf8_lt_iff.2)

theorem CanonicalMarkers.exists_encode {v : Json} (h : CanonicalMarkers v) :
    ∃ s : AttrSet, s.encode = v := by
  obtain @⟨ms, hms⟩ := h
  exact ⟨⟨ms, hms.imp utf8_lt_iff.1⟩, rfl⟩

theorem canonicalField_encode (f : Field) : CanonicalField f.encode :=
  .mk f.name (canonicalMarkers_encode f.attrs)

theorem CanonicalField.exists_encode {v : Json} (h : CanonicalField v) :
    ∃ f : Field, f.encode = v := by
  obtain ⟨name, hattrs⟩ := h
  obtain ⟨s, rfl⟩ := hattrs.exists_encode
  exact ⟨⟨name, s⟩, rfl⟩

theorem canonicalDeclaration_encode (d : Declaration) : CanonicalDeclaration d.encode := by
  cases d with
  | record r =>
      refine .mk .record r.name (canonicalMarkers_encode r.attrs) ?_
      exact List.forall_mem_map.2 fun f _ => canonicalField_encode f
  | variant v =>
      refine .mk .variant v.name (canonicalMarkers_encode v.attrs) ?_
      exact List.forall_mem_map.2 fun s _ => ⟨s, rfl⟩
  | flagSet f =>
      refine .mk .flagSet f.name (canonicalMarkers_encode f.attrs) ?_
      exact List.forall_mem_map.2 fun s _ => ⟨s, rfl⟩

/-- Values that are each the encoding of something are the encodings of a list. -/
theorem exists_map_encode {α : Type} {encode : α → Json} {vs : List Json}
    (h : ∀ v ∈ vs, ∃ a, encode a = v) : ∃ as : List α, as.map encode = vs := by
  have hmem : vs ∈ Set.range (List.map encode) := by
    rw [Set.range_list_map]
    exact h
  exact hmem

/-- A canonical value is what some declaration is written as. -/
theorem CanonicalDeclaration.exists_encode {v : Json} (h : CanonicalDeclaration v) :
    ∃ d : Declaration, d.encode = v := by
  obtain ⟨k, name, hattrs, hparts⟩ := h
  obtain ⟨s, rfl⟩ := hattrs.exists_encode
  cases k with
  | record =>
      obtain ⟨fields, rfl⟩ := exists_map_encode fun p hp => (hparts p hp).exists_encode
      exact ⟨.record ⟨name, s, fields⟩, rfl⟩
  | variant =>
      obtain ⟨variants, rfl⟩ := exists_map_encode hparts
      exact ⟨.variant ⟨name, s, variants⟩, rfl⟩
  | flagSet =>
      obtain ⟨flags, rfl⟩ := exists_map_encode hparts
      exact ⟨.flagSet ⟨name, s, flags⟩, rfl⟩

/-! ## Reading back -/

theorem Field.decode_encode (surplus : Surplus) (f : Field) :
    Field.decode surplus f.encode = .ok f :=
  f.writtenAs_encode.decode surplus

theorem Declaration.decode_encode (d : Declaration) : Declaration.decode d.encode = .ok d :=
  d.writtenAs_encode.decode

theorem Declaration.encode_inj {d e : Declaration} : d.encode = e.encode ↔ d = e := by
  constructor
  · intro h
    have hd := d.decode_encode
    rw [h, e.decode_encode] at hd
    exact (Except.ok.inj hd).symm
  · rintro rfl
    rfl

/-- No other canonical value is read as the declaration. -/
theorem CanonicalDeclaration.eq_encode {v : Json} {d : Declaration} (h : CanonicalDeclaration v)
    (hv : Declaration.decode v = .ok d) : v = d.encode := by
  obtain ⟨e, rfl⟩ := h.exists_encode
  rw [e.decode_encode] at hv
  rw [Except.ok.inj hv]

/-! ## With sorted members

A document keeps the members of an object sorted by name. That is another order of the members that
are written, so a declaration is read back from it as well. -/

theorem canonicalItems_map {α : Type} (encode : α → Json) (as : List α) :
    canonicalItems (as.map encode) = as.map fun a => (encode a).canonical := by
  induction as with
  | nil => simp [canonicalItems]
  | cons a as ih => simp [canonicalItems, ih]

theorem AttrSet.canonical_encode (s : AttrSet) : s.encode.canonical = s.encode := by
  rw [encode, canonical, canonicalItems_map]
  simp [canonical]

theorem Field.givenAs_canonical (f : Field) : f.GivenAs f.encode.canonical := by
  have sorted : f.encode.canonical =
      .object [("attrs", f.attrs.encode), ("name", .string f.name)] := by
    simp only [encode, canonical, canonicalMembers, AttrSet.canonical_encode]
    rfl
  rw [sorted]
  exact .object (.object (.given f.attrs.writtenAs_encode) (.swap _ _ _))

theorem Declaration.givenAs_canonical (d : Declaration) : d.GivenAs d.encode.canonical := by
  have text (s : String) : TextWrittenAs s (Json.canonical (.string s)) := by
    simp [TextWrittenAs, canonical]
  cases d with
  | record r =>
      have sorted : (record r).encode.canonical = .object
          ([("attrs", r.attrs.encode),
            ("fields", .array (r.fields.map fun f => f.encode.canonical))] ++
          [("kind", .string Kind.record.name), ("name", .string r.name)]) := by
        simp only [encode, Record.members, encodeMembers, canonical, canonicalMembers,
          AttrSet.canonical_encode, canonicalItems_map]
        rfl
      rw [sorted]
      exact .object (.object (.of_encode Field.givenAs_canonical r.name r.attrs _ _))
        List.perm_append_comm
  | variant v =>
      have sorted : (variant v).encode.canonical = .object
          ([("attrs", v.attrs.encode)] ++
          [("kind", .string Kind.variant.name), ("name", .string v.name)] ++
          [("variants", .array (v.variants.map fun s => Json.canonical (.string s)))]) := by
        simp only [encode, Variant.members, encodeMembers, canonical, canonicalMembers,
          AttrSet.canonical_encode, canonicalItems_map]
        rfl
      rw [sorted]
      exact .object (.object (.of_encode text v.name v.attrs _ _))
        (List.perm_append_comm.append_right _)
  | flagSet f =>
      have sorted : (flagSet f).encode.canonical = .object
          ([("attrs", f.attrs.encode),
            ("flags", .array (f.flags.map fun s => Json.canonical (.string s)))] ++
          [("kind", .string Kind.flagSet.name), ("name", .string f.name)]) := by
        simp only [encode, FlagSet.members, encodeMembers, canonical, canonicalMembers,
          AttrSet.canonical_encode, canonicalItems_map]
        rfl
      rw [sorted]
      exact .object (.object (.of_encode text f.name f.attrs _ _)) List.perm_append_comm

theorem Declaration.canonical_encode_inj {d e : Declaration} :
    d.encode.canonical = e.encode.canonical ↔ d = e := by
  constructor
  · intro h
    have hd := decode_ok_iff.2 d.givenAs_canonical
    rw [h, decode_ok_iff.2 e.givenAs_canonical] at hd
    exact (Except.ok.inj hd).symm
  · rintro rfl
    rfl

end NodeIdGen.Schema

namespace NodeIdGen

open NodeIdGen.Json

theorem Diagnostic.decode_encode (g : Diagnostic) : Diagnostic.decode g.encode = .ok g := by
  obtain ⟨code, phase, severity, decl, message, help⟩ := g
  have hcode : Code.decode (.string code.name) = .ok code := by cases code <;> rfl
  have hphase : Phase.decode (.string phase.name) = .ok phase := by cases phase <;> rfl
  have hseverity : Severity.decode (.string severity.name) = .ok severity := by
    cases severity
    rfl
  have optional (o : Option String) : asOptionalText (encodeOptional o) = .ok o := by
    cases o <;> rfl
  have members : [("code", Json.string code.name), ("phase", .string phase.name),
      ("severity", .string severity.name), ("decl", encodeOptional decl),
      ("message", .string message), ("help", encodeOptional help)].foldlM Draft.add {} =
      .ok ⟨some code, some phase, some severity, some decl, some message, some help⟩ := by
    simp [Draft.add, storeOnce, asText, hcode, hphase, hseverity, optional]
  unfold encode decode
  dsimp only
  rw [members]
  rfl

end NodeIdGen

namespace NodeIdGen.Schema

open NodeIdGen.Json

/-- A value is decoded to a declaration exactly if it is one of the objects or arrays that the
declaration can be given as. Writing a declaration gives a canonical value, from which it is read
back, and no other canonical value is read as it. So two values are decoded to one declaration
exactly if they are written again in the same way, with their members in the order in which they are
written or sorted. Fields and diagnostics are read back from what they are written as, too. -/
theorem canonical_encoding :
    (∀ v d, Declaration.decode v = .ok d ↔ d.GivenAs v) ∧
    (∀ d, CanonicalDeclaration d.encode ∧ Declaration.decode d.encode = .ok d ∧
      ∀ v, Declaration.decode v = .ok d → CanonicalDeclaration v → v = d.encode) ∧
    (∀ v w d e, Declaration.decode v = .ok d → Declaration.decode w = .ok e →
      (Declaration.decode v = Declaration.decode w ↔ d.encode = e.encode) ∧
      (Declaration.decode v = Declaration.decode w ↔
        d.encode.canonical = e.encode.canonical)) ∧
    (∀ surplus f, Field.decode surplus f.encode = .ok f) ∧
    ∀ g, Diagnostic.decode g.encode = .ok g := by
  refine ⟨fun v d => Declaration.decode_ok_iff, fun d => ?_, ?_, Field.decode_encode,
    Diagnostic.decode_encode⟩
  · exact ⟨canonicalDeclaration_encode d, d.decode_encode, fun v hv h => h.eq_encode hv⟩
  · intro v w d e hv hw
    have same : Declaration.decode v = Declaration.decode w ↔ d = e := by
      rw [hv, hw]
      exact ⟨Except.ok.inj, congrArg Except.ok⟩
    exact ⟨same.trans Declaration.encode_inj.symm,
      same.trans Declaration.canonical_encode_inj.symm⟩

/-- A record as an array, with its first field as an array and markers repeated and unordered. -/
def recordItems : Json :=
  .array [.string "record", .string "A", .array [],
    .array [.array [.string "x", .array [.string "b", .string "ä", .string "b"]],
      .object [("name", .string "y")]]]

/-- The same record as an object, with the markers left out that it has not. -/
def recordMembers : Json :=
  .object [("fields", .array
      [.object [("attrs", .array [.string "ä", .string "b"]), ("name", .string "x")],
       .array [.string "y"]]),
    ("kind", .string "record"), ("name", .string "A")]

theorem record_encoding : ∃ d e : Declaration,
    Declaration.decode recordItems = .ok d ∧ Declaration.decode recordMembers = .ok e ∧
    d.encode = e.encode ∧ CanonicalDeclaration d.encode ∧
    Declaration.decode recordItems = Declaration.decode recordMembers ∧
    ¬ CanonicalDeclaration recordItems := by
  obtain ⟨-, canonical, same, -⟩ := canonical_encoding
  have items : Declaration.decode recordItems =
      .ok (.record ⟨"A", ∅, [⟨"x", .ofList ["b", "ä"]⟩, ⟨"y", ∅⟩]⟩) := by
    decide +kernel
  have members : Declaration.decode recordMembers =
      .ok (.record ⟨"A", ∅, [⟨"x", .ofList ["b", "ä"]⟩, ⟨"y", ∅⟩]⟩) := by
    decide +kernel
  refine ⟨_, _, items, members, ?_, (canonical _).1, ?_, fun h => ?_⟩
  · exact (same _ _ _ _ items members).1.1 (items.trans members.symm)
  · exact (same _ _ _ _ items members).1.2 rfl
  · have := (canonical _).2.2 recordItems items h
    cases this

end NodeIdGen.Schema
