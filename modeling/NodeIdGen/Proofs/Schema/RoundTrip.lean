import NodeIdGen.Proofs.Schema.DocumentText

/-!
# Declarations survive being written as a document

A document that is written out and parsed gives the document back, whatever its strings are: the
form of the text cannot lose a declaration. What can go wrong is left to the checks of names and
their uniqueness, and `ofDocument_render` says that nothing else does.
-/

namespace NodeIdGen.Schema

open NodeIdGen.Json

/-! ## The value that is written

Of the values that a document can be written as, the one that is written lists the markers in
ascending order and leaves nothing out. -/

theorem AttrSet.writtenAs_encode (s : AttrSet) : s.WrittenAs s.encode :=
  .array fun _ => Iff.rfl

theorem ListWrittenAs.of_encode {α : Type} {part : α → Json → Prop} {encode : α → Json}
    (h : ∀ a, part a (encode a)) (as : List α) : ListWrittenAs part as (.array (as.map encode)) :=
  .array (List.forall₂_map_right_iff.2 (List.forall₂_same.2 fun a _ => h a))

theorem Field.writtenAs_encode (f : Field) : f.WrittenAs f.encode :=
  .object (.given f.attrs.writtenAs_encode) (.refl _)

theorem MembersWrittenAs.of_encode {α : Type} {part : α → Json → Prop} {encode : α → Json}
    (h : ∀ a, part a (encode a)) (name : String) (attrs : AttrSet) (partsName : String)
    (parts : List α) : MembersWrittenAs name attrs partsName part parts
      (encodeMembers name attrs partsName (parts.map encode)) :=
  .mk (.given attrs.writtenAs_encode) (.given (.of_encode h parts)) (.refl _)

theorem Declaration.writtenAs_encode (d : Declaration) : d.WrittenAs d.encode := by
  have text : ∀ s, TextWrittenAs s (.string s) := fun _ => rfl
  cases d with
  | record r => exact .object (.of_encode Field.writtenAs_encode r.name r.attrs _ _) (.refl _)
  | variant v => exact .object (.of_encode text v.name v.attrs _ _) (.refl _)
  | flagSet f => exact .object (.of_encode text f.name f.attrs _ _) (.refl _)

namespace Document

theorem writtenAs_encode (d : Document) : d.WrittenAs d.encode :=
  .object (.of_encode Declaration.writtenAs_encode d.decls) (.refl _)

theorem parse_render (d : Document) : parse d.encode.render = .ok d :=
  parse_of_writtenAs d.writtenAs_encode (d.writtenAs_encode.textual 0).spellsText_render

end Document

/-! ## The checks behind reading -/

theorem isVersion_documentVersion : isVersion documentVersion documentVersion = true := by
  decide

/-- A list of declarations is accepted as a document exactly when its names fit and differ. -/
theorem ofDocument_render {ds : List Declaration} :
    ofDocument (Document.encode ⟨documentVersion, ds⟩).render = .ok ds ↔
      (∀ d ∈ ds, d.Fits (Syntax.isIdentifier · = true) (isFieldName · = true)) ∧
        (ds.map Declaration.name).Nodup := by
  rw [ofDocument_eq_ok]
  constructor
  · rintro ⟨_, -, -, h⟩
    exact h
  · intro h
    exact ⟨documentVersion, Document.parse_render _, isVersion_documentVersion, h⟩

/-- Where only a name is wrong, the document is refused because of it. -/
theorem ofDocument_render_of_nameDefect {ds : List Declaration} {defect : Defect}
    (h : ds.findSome? nameDefect? = some defect) :
    ofDocument (Document.encode ⟨documentVersion, ds⟩).render = .error defect := by
  have names : checkNames ds = .error defect := by rw [checkNames, h]
  unfold ofDocument
  rw [Document.parse_render]
  simp [Except.mapError, bind, Except.bind, isVersion_documentVersion, names]

/-! ## From a source text to a document

The grammar lets the placeholder `_` stand in the place of a field's name, and loading keeps it. A
document must not have such a field, so this is the one thing that keeps the declarations of a
source text from being those of a document. -/

theorem not_isFieldName_placeholder : isFieldName "_" = false := by
  decide +kernel

theorem isFieldName_iff_of_isSourceFieldName {n : String} (h : isSourceFieldName n) :
    isFieldName n = true ↔ n ≠ "_" := by
  constructor
  · rintro hn rfl
    rw [not_isFieldName_placeholder] at hn
    cases hn
  · intro hn
    exact h.resolve_right hn

/-- Among the declarations of a source text only a placeholder can be a wrong name. -/
theorem nameDefect_of_source {ds : List Declaration} {defect : Defect}
    (hds : ∀ d ∈ ds, d.Fits (Syntax.isIdentifier · = true) isSourceFieldName)
    (h : ds.findSome? nameDefect? = some defect) :
    ∃ r, .record r ∈ ds ∧ (∃ f ∈ r.fields, f.name = "_") ∧ defect = .fieldName "_" r.name := by
  obtain ⟨d, hd, hdefect⟩ := List.exists_of_findSome?_eq_some h
  have fits := hds d hd
  unfold nameDefect? at hdefect
  rw [if_pos fits.name] at hdefect
  cases d with
  | record r =>
      obtain ⟨f, hf, rfl⟩ := Option.map_eq_some_iff.1 hdefect
      have hmem : f ∈ r.fields := List.mem_of_find?_eq_some hf
      have hbad := List.find?_some hf
      have hname : f.name = "_" :=
        (fits.field r rfl f hmem).resolve_left (by simpa using hbad)
      exact ⟨r, hd, ⟨f, hmem, hname⟩, by rw [hname]⟩
  | variant v => cases hdefect
  | flagSet f => cases hdefect

/-- The declarations of a source text are those of the document that they are written as, unless a
field is called by the placeholder; then the document is refused because of such a field. -/
theorem ofSource_as_document {text : String} {ds : List Declaration}
    (h : ofSource text = .ok ds) :
    (∀ d ∈ ds, Syntax.isIdentifier d.name = true) ∧
    (∀ r, .record r ∈ ds → ∀ f ∈ r.fields, (isFieldName f.name = true ↔ f.name ≠ "_")) ∧
    (ofDocument (Document.encode ⟨documentVersion, ds⟩).render = .ok ds ↔
      ∀ r, .record r ∈ ds → ∀ f ∈ r.fields, f.name ≠ "_") ∧
    ((∃ r, .record r ∈ ds ∧ ∃ f ∈ r.fields, f.name = "_") →
      ∃ r, .record r ∈ ds ∧ (∃ f ∈ r.fields, f.name = "_") ∧
        ofDocument (Document.encode ⟨documentVersion, ds⟩).render =
          .error (.fieldName "_" r.name)) := by
  have fits := fits_of_ofSource h
  have field : ∀ r, .record r ∈ ds → ∀ f ∈ r.fields, (isFieldName f.name = true ↔ f.name ≠ "_") :=
    fun r hr f hf => isFieldName_iff_of_isSourceFieldName ((fits _ hr).field r rfl f hf)
  refine ⟨fun d hd => (fits d hd).name, field, ?_, ?_⟩
  · rw [ofDocument_render]
    constructor
    · rintro ⟨hall, -⟩ r hr f hf
      exact (field r hr f hf).1 ((hall _ hr).field r rfl f hf)
    · intro hall
      refine ⟨fun d hd => ⟨(fits d hd).name, ?_⟩, nodup_of_ofSource h⟩
      rintro r rfl f hf
      exact (field r hd f hf).2 (hall r hd f hf)
  · rintro ⟨r, hr, f, hf, hname⟩
    have hsome : ds.findSome? nameDefect? ≠ none := by
      intro hnone
      have := (nameDefect?_eq_none.1 (List.findSome?_eq_none_iff.1 hnone _ hr)).field r rfl f hf
      rw [hname, not_isFieldName_placeholder] at this
      cases this
    obtain ⟨defect, hdefect⟩ := Option.ne_none_iff_exists'.1 hsome
    obtain ⟨r', hr', hf', rfl⟩ := nameDefect_of_source fits hdefect
    exact ⟨r', hr', hf', ofDocument_render_of_nameDefect hdefect⟩

theorem ofSource_as_document_of_shapes :
    (ofSource "struct A \x7b r#id: u8 \x7d struct B(u8);").toOption =
      some [.record ⟨"A", ∅, [⟨"r#id", ∅⟩]⟩, .record ⟨"B", ∅, [⟨"0", ∅⟩]⟩] ∧
    ofDocument (Document.encode ⟨documentVersion,
      [.record ⟨"A", ∅, [⟨"r#id", ∅⟩]⟩, .record ⟨"B", ∅, [⟨"0", ∅⟩]⟩]⟩).render =
      .ok [.record ⟨"A", ∅, [⟨"r#id", ∅⟩]⟩, .record ⟨"B", ∅, [⟨"0", ∅⟩]⟩] := by
  have loaded : (ofSource "struct A \x7b r#id: u8 \x7d struct B(u8);").toOption =
      some [.record ⟨"A", ∅, [⟨"r#id", ∅⟩]⟩, .record ⟨"B", ∅, [⟨"0", ∅⟩]⟩] := by
    decide +kernel
  refine ⟨loaded, ?_⟩
  refine (ofSource_as_document (Except.toOption_eq_some.1 loaded)).2.2.1.2 fun r hr f hf => ?_
  simp only [List.mem_cons, List.not_mem_nil, or_false, Declaration.record.injEq] at hr
  rcases hr with rfl | rfl <;> simp at hf <;> simp [hf]

/-- A source text with a placeholder is accepted, and the document of its declarations is not. -/
theorem placeholder_lost_in_document :
    ∃ ds, ofSource "struct S \x7b _: u8 \x7d" = .ok ds ∧
      (∃ r, .record r ∈ ds ∧ ∃ f ∈ r.fields, isFieldName f.name = false) ∧
      ofDocument (Document.encode ⟨documentVersion, ds⟩).render ≠ .ok ds := by
  refine ⟨[.record ⟨"S", ∅, [⟨"_", ∅⟩]⟩], Except.toOption_eq_some.1 (by decide +kernel),
    ⟨⟨"S", ∅, [⟨"_", ∅⟩]⟩, List.mem_cons_self, ⟨"_", ∅⟩, List.mem_cons_self,
      not_isFieldName_placeholder⟩, fun h => ?_⟩
  have := ((ofDocument_render.1 h).1 _ List.mem_cons_self).field _ rfl _ List.mem_cons_self
  rw [not_isFieldName_placeholder] at this
  cases this

end NodeIdGen.Schema
