import Mathlib.Data.List.Nodup
import NodeIdGen.Proofs.Generate.Wiring
import NodeIdGen.Proofs.Syntax.Identifiers

/-!
# Fields that are numbered

A field without a name takes its position as its name, and in the text of a document a position
stands for the field at this place. Here both sides are compared. The texts that are admitted as
positions are the decimal spellings of the numbers, none of which is an identifier; and the fields
of a structure in parentheses are named by the spellings of the numbers from zero on, one for each
field and in their order. A structure does not mix the two kinds of fields: what the grammar reads
in parentheses has no names, and what it reads in braces has only such.
-/

namespace NodeIdGen.Syntax

open NodeIdGen.Syntax.Parser

/-! ## Fields in parentheses and in braces -/

def StructDecl.IsPositional (d : StructDecl) : Prop :=
  ∀ f ∈ d.fields, f.name = none

instance (d : StructDecl) : Decidable d.IsPositional :=
  inferInstanceAs (Decidable (∀ f ∈ d.fields, f.name = none))

def StructDecl.IsNamed (d : StructDecl) : Prop :=
  ∀ f ∈ d.fields, f.name ≠ none

/-- If the item is a structure, its fields are of one kind. -/
def Item.IsUniform : Item → Prop
  | .struct d => d.IsPositional ∨ d.IsNamed
  | _ => True

section Rules

set_option synthInstance.maxSize 100000

variable {P : String → Prop} (g : Grammar) [ForwardGrammar g]

theorem positionalFields_yields :
    Yields P (positionalFields g) (fun fs => ∀ f ∈ fs, f.name = none) := by
  have field : Yields P (positionalField g) (fun f => f.name = none) :=
    .skip _ fun attrs => .skip _ fun _ => .skip _ fun _ => .pure rfl
  exact field.commaSeparated.group

theorem namedFields_yields_names (n : Nat) :
    Yields P (namedFields g n) (fun fs => ∀ f ∈ fs, f.name ≠ none) := by
  cases n with
  | zero => exact .throw _
  | succ n =>
      rw [namedFields]
      dsimp only
      refine Yields.group (Yields.commaSeparated ?_)
      refine .skip _ fun attrs => .skip _ fun _ => fieldName_yields fun u m _ => ?_
      refine .skip _ fun _ => .skip _ fun nested => .ite ?_ ?_
      · exact .skip _ fun _ => .skip _ fun _ => .pure (Option.some_ne_none m)
      · exact .skip _ fun _ => .pure (Option.some_ne_none m)

theorem structBody_yields_uniform : Yields P (structBody g)
    (fun fs => (∀ f ∈ fs, f.name = none) ∨ ∀ f ∈ fs, f.name ≠ none) := by
  refine .skip _ fun restricted => .skip _ fun ts => .ite ?_ (.ite ?_ ?_)
  · refine (positionalFields_yields g).bind fun fs hfs => ?_
    exact .skip _ fun _ => .skip _ fun _ => .pure (.inl hfs)
  · refine .skip _ fun _ => ⟨fun hs h => .inr ?_⟩
    exact (namedFields_yields_names g _).holds hs h
  · exact .skip _ fun _ => .pure (.inl (List.forall_mem_nil _))

theorem isUniform_of_plain (p : Parser Item) [Plain p] : Yields P p Item.IsUniform := by
  refine ⟨fun {s t i} _ h => ?_⟩
  have declares : i.Sound fun _ => False := Plain.sound h
  cases i with
  | struct d => exact declares.1.1.elim
  | _ => trivial

theorem itemRule_yields_uniform : Yields P (itemRule g) Item.IsUniform := by
  refine itemRule_yields_of g ?_ ?_ ?_ fun p => isUniform_of_plain p
  · intro attrs _
    refine .skip _ fun _ => .skip _ fun n => .skip _ fun generic => ?_
    exact (structBody_yields_uniform g).bind fun fs hfs => .pure hfs
  · intro attrs _
    refine .skip _ fun _ => .skip _ fun n => .skip _ fun _ => .skip _ fun _ => ?_
    exact .skip _ fun _ => .pure trivial
  · rw [invocationItem]
    dsimp only
    refine .skip _ fun p => .skip _ fun _ => .skip _ fun _ => .ite ?_ ?_
    all_goals
      refine .skip _ fun _ => .skip _ fun c => .ite ?_ ?_
      · exact .skip _ fun _ => .pure trivial
      · exact .pure trivial

end Rules

end NodeIdGen.Syntax

namespace NodeIdGen.Schema

open NodeIdGen.Generate NodeIdGen.Syntax

/-! ## Names of numbered fields -/

/-- The fields of a structure in a source text are of one kind. -/
theorem isUniform_of_parseFile {text : String} {items : List Item}
    (h : parseFile text = .ok items) : ∀ i ∈ items, i.IsUniform := by
  obtain ⟨ts, hts, hparse⟩ := tokens_of_parseFile h
  exact Item.forall_of_parseAll hts (fun n => itemRule_yields_uniform (grammar n)) hparse

theorem nodup_range_toString (n : Nat) : ((List.range n).map (toString ·)).Nodup := by
  refine List.Nodup.map ?_ List.nodup_range
  intro i j h
  exact eq_of_toString_eq h

theorem fieldNames_recordOf {d : StructDecl} (h : d.IsPositional) :
    (recordOf d).fields.map Field.name = (List.range d.fields.length).map (toString ·) := by
  refine List.ext_getElem (by simp [recordOf]) fun i hi hi' => ?_
  have hlt : i < d.fields.length := by simpa using hi'
  have unnamed : d.fields[i].name = none := h _ (List.getElem_mem hlt)
  simp [recordOf, fieldOf, unnamed]

theorem ofStruct_eq_ok {d : StructDecl} {r : Record} :
    ofStruct d = .ok r ↔ d.generic = false ∧ Bare (attrsOf d) ∧ r = recordOf d := by
  rw [ofStruct_eq, Except.elim_ok_iff]
  cases d.generic with
  | true => simp
  | false =>
      rw [if_neg Bool.false_ne_true, attrsDefect?_eq_none]
      simp [eq_comm]

theorem record_of_struct {text : String} {items : List Item} {ds : List Declaration}
    (hparse : parseFile text = .ok items) (hload : ofSource text = .ok ds) {d : StructDecl}
    (hd : .struct d ∈ items) : ∃ r, ofStruct d = .ok r ∧ .record r ∈ ds := by
  obtain ⟨⟨parts, hparts, rfl⟩, -⟩ := (ofSource_eq_ok hparse).1 hload
  obtain ⟨part, hpart, stands⟩ := List.exists_of_forall₂ hparts _ hd
  cases stands with
  | record d hgeneric hattrs =>
      refine ⟨recordOf d, ofStruct_eq_ok.2 ⟨hgeneric, hattrs, rfl⟩, ?_⟩
      exact List.mem_flatten.2 ⟨_, hpart, List.mem_cons_self⟩

theorem fieldNames_of_ofStruct {d : StructDecl} {r : Record} (hd : d.IsPositional)
    (hr : ofStruct d = .ok r) :
    r.fields.map Field.name = (List.range d.fields.length).map (toString ·) := by
  obtain ⟨-, -, rfl⟩ := ofStruct_eq_ok.1 hr
  exact fieldNames_recordOf hd

/-- A structure with so many fields, none of which has a name. -/
def unnamedFields (n : Nat) : StructDecl :=
  ⟨[], "A", false, List.replicate n ⟨[], none⟩⟩

theorem isPositional_unnamedFields (n : Nat) : (unnamedFields n).IsPositional := by
  intro f hf
  rw [List.eq_of_mem_replicate hf]

/-- The positions are the names that fields get by their place. -/
theorem isPosition_iff_numbered {s : String} : isPosition s = true ↔
    ∃ d r, d.IsPositional ∧ ofStruct d = .ok r ∧ s ∈ r.fields.map Field.name := by
  rw [isPosition_iff_toString]
  constructor
  · rintro ⟨n, rfl⟩
    have bare : Bare (attrsOf (unnamedFields (n + 1))) := by
      intro a ha
      simp [attrsOf, unnamedFields] at ha
    refine ⟨unnamedFields (n + 1), _, isPositional_unnamedFields _,
      ofStruct_eq_ok.2 ⟨rfl, bare, rfl⟩, ?_⟩
    rw [fieldNames_recordOf (isPositional_unnamedFields _)]
    refine List.mem_map.2 ⟨n, ?_, rfl⟩
    simp [unnamedFields]
  · rintro ⟨d, r, hd, hr, hs⟩
    rw [fieldNames_of_ofStruct hd hr] at hs
    obtain ⟨n, -, rfl⟩ := List.mem_map.1 hs
    exact ⟨n, rfl⟩

/-- The admitted positions are the decimal spellings of numbers, each of one number: digits without
a leading zero, of any length. They are the names that fields get by their place, and no identifier
is among them. A structure whose fields have no names is a record unless it has generic parameters
or a marker with arguments, and its fields are then named by the spellings of the numbers from zero
on, in their order, all different. In an accepted source text each structure has such fields or only
named ones, and its record is among the declarations. -/
theorem positions_number_fields :
    (∀ s, isPosition s = true ↔ ∃! n : Nat, s = toString n) ∧
    (∀ s, isPosition s = true ↔
      s ≠ "" ∧ (∀ c ∈ s.toList, '0' ≤ c ∧ c ≤ '9') ∧ ∀ cs, s.toList = '0' :: cs → cs = []) ∧
    (∀ s, isPosition s = true ↔
      ∃ d r, d.IsPositional ∧ ofStruct d = .ok r ∧ s ∈ r.fields.map Field.name) ∧
    (∀ s, isPosition s = true → isIdentifier s = false) ∧
    (∀ d : StructDecl, d.IsPositional →
      ((∃ r, ofStruct d = .ok r) ↔ d.generic = false ∧ Bare (attrsOf d)) ∧
      ∀ r, ofStruct d = .ok r →
        r.fields.map Field.name = (List.range d.fields.length).map (toString ·) ∧
          (r.fields.map Field.name).Nodup) ∧
    ∀ text items ds, parseFile text = .ok items → ofSource text = .ok ds →
      ∀ d, .struct d ∈ items → (d.IsPositional ∨ d.IsNamed) ∧
        ∃ r, ofStruct d = .ok r ∧ .record r ∈ ds := by
  refine ⟨fun s => ?_, fun s => isPosition_iff_digits, fun s => isPosition_iff_numbered,
    fun s hs => ?_, fun d hd => ⟨?_, ?_⟩, ?_⟩
  · rw [isPosition_iff_toString]
    constructor
    · rintro ⟨n, rfl⟩
      exact ⟨n, rfl, fun k hk => (eq_of_toString_eq hk).symm⟩
    · exact ExistsUnique.exists
  · refine Bool.eq_false_iff.2 fun hid => ?_
    rw [isPosition_of_isIdentifier hid] at hs
    cases hs
  · simp [ofStruct_eq_ok]
  · intro r hr
    rw [fieldNames_of_ofStruct hd hr]
    exact ⟨rfl, nodup_range_toString _⟩
  · intro text items ds hparse hload d hd
    exact ⟨isUniform_of_parseFile hparse _ hd, record_of_struct hparse hload hd⟩

/-- A structure with eleven fields in parentheses, one of them marked. -/
def elevenFields : StructDecl :=
  ⟨[], "Row", false,
    List.replicate 9 ⟨[], none⟩ ++ [⟨[⟨.ofName "node_id", false⟩], none⟩, ⟨[], none⟩]⟩

/-- The structure behind one with named fields. -/
def elevenSource : String :=
  "struct Key \x7b id: u8 \x7d " ++
    "struct Row(u8, u8, u8, u8, u8, u8, u8, u8, u8, #[node_id] pub u8, u8);"

theorem eleven_fields_numbered :
    isPosition "10" = true ∧ isIdentifier "10" = false ∧ elevenFields.IsPositional ∧
      ∃ items ds r, parseFile elevenSource = .ok items ∧ ofSource elevenSource = .ok ds ∧
        .struct elevenFields ∈ items ∧ ofStruct elevenFields = .ok r ∧ .record r ∈ ds ∧
        r.fields.map Field.name = ["0", "1", "2", "3", "4", "5", "6", "7", "8", "9", "10"] ∧
        (r.fields.map Field.name).Nodup := by
  obtain ⟨spelled, -, -, apart, numbered, declared⟩ := positions_number_fields
  have position : isPosition "10" = true :=
    (spelled "10").2 ⟨10, rfl, fun k hk => (@eq_of_toString_eq 10 k hk).symm⟩
  have unnamed : elevenFields.IsPositional := by decide
  have parsed : (parseFile elevenSource).toOption.map structsOf =
      some [⟨[], "Key", false, [⟨[], some "id"⟩]⟩, elevenFields] := by
    decide +kernel
  obtain ⟨ds, hload⟩ : ∃ ds, ofSource elevenSource = .ok ds := Except.isOk_iff.1 (by decide +kernel)
  obtain ⟨items, hitems, hstructs⟩ := Option.map_eq_some_iff.1 parsed
  have hparse := Except.toOption_eq_some.1 hitems
  have hmem : .struct elevenFields ∈ items := by
    rw [← mem_structsOf, hstructs]
    exact List.mem_cons_of_mem _ List.mem_cons_self
  obtain ⟨-, r, hr, hrecord⟩ := declared _ _ _ hparse hload _ hmem
  obtain ⟨names, nodup⟩ := (numbered _ unnamed).2 r hr
  exact ⟨position, apart _ position, unnamed, items, ds, r, hparse, hload, hmem, hr, hrecord, names,
    nodup⟩

end NodeIdGen.Schema
