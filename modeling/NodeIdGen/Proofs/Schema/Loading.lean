import NodeIdGen.Proofs.Except
import NodeIdGen.Proofs.Schema.Positions
import NodeIdGen.Proofs.Syntax.Lexing
import NodeIdGen.Schema.Document
import NodeIdGen.Schema.Source

/-!
# What loading a schema establishes

A schema is read from a source text or from a document. Both refuse a name that is declared twice,
and both let only identifiers name a declaration. Of the names of fields a document requires that
each is an identifier or a position; a source text lets the placeholder `_` through as well, because
the grammar accepts it in the place of a field's name.
-/

namespace NodeIdGen.Schema

open NodeIdGen.Syntax

/-! ## No name twice -/

theorem firstRepeated?_eq_none {seen names : List String} :
    firstRepeated? seen names = none ↔ names.Nodup ∧ ∀ n ∈ names, n ∉ seen := by
  induction names generalizing seen with
  | nil => simp [firstRepeated?]
  | cons n names ih =>
      rw [firstRepeated?]
      split
      · next h => simp [h]
      · next h =>
        rw [ih, List.nodup_cons, List.forall_mem_cons]
        grind

theorem checkUnique_eq_ok {ds : List Declaration} :
    checkUnique ds = .ok () ↔ (ds.map Declaration.name).Nodup := by
  unfold checkUnique
  split
  · next n h =>
    simp only [reduceCtorEq, false_iff]
    intro hnodup
    have : firstRepeated? [] (ds.map Declaration.name) = none :=
      firstRepeated?_eq_none.2 ⟨hnodup, fun _ _ hm => nomatch hm⟩
    rw [h] at this
    cases this
  · next h =>
    simp only [true_iff]
    exact (firstRepeated?_eq_none.1 h).1

/-! ## Names that may be written out -/

/-- The names of a declaration pass a test of declarations' names and one of fields' names. -/
structure Declaration.Fits (okName okField : String → Prop) (d : Declaration) : Prop where
  name : okName d.name
  field : ∀ r, d = .record r → ∀ f ∈ r.fields, okField f.name

theorem nameDefect?_eq_none {d : Declaration} :
    nameDefect? d = none ↔ d.Fits (isIdentifier · = true) (isFieldName · = true) := by
  unfold nameDefect?
  split
  · next hname =>
    cases d with
    | record r =>
        simp only [badField?, Option.map_eq_none_iff, List.find?_eq_none, Bool.not_eq_eq_eq_not,
          Bool.not_true, Bool.not_eq_false]
        exact ⟨fun h => ⟨hname, fun r' hr => by cases hr; exact h⟩, fun h => h.field r rfl⟩
    | variant v => exact ⟨fun _ => ⟨hname, fun r hr => nomatch hr⟩, fun _ => rfl⟩
    | flagSet v => exact ⟨fun _ => ⟨hname, fun r hr => nomatch hr⟩, fun _ => rfl⟩
  · next hname =>
    simp only [reduceCtorEq, false_iff]
    exact fun h => hname h.name

theorem checkNames_eq_ok {ds : List Declaration} :
    checkNames ds = .ok () ↔
      ∀ d ∈ ds, d.Fits (isIdentifier · = true) (isFieldName · = true) := by
  unfold checkNames
  split
  · next defect h =>
    simp only [reduceCtorEq, false_iff]
    intro hall
    obtain ⟨d, hd, hdefect⟩ := List.exists_of_findSome?_eq_some h
    rw [nameDefect?_eq_none.2 (hall d hd)] at hdefect
    cases hdefect
  · next h =>
    simp only [List.findSome?_eq_none_iff, nameDefect?_eq_none] at h
    simpa using h

/-! ## Declarations of a source text -/

/-- A name that the grammar lets name a field, or a position. -/
def isSourceFieldName (n : String) : Prop :=
  isFieldName n = true ∨ n = "_"

theorem isIdentifier_of_names {n : String} (h : Names IsWord n) : isIdentifier n = true :=
  isIdentifier_iff.2 h

theorem fieldNames_of_recordFields {decl : String} {k : Nat} {ds : List FieldDecl}
    {fs : List Field} (hds : ∀ d ∈ ds, d.Sound IsWord) (h : recordFields decl k ds = .ok fs) :
    ∀ f ∈ fs, isSourceFieldName f.name := by
  induction ds generalizing k fs with
  | nil =>
      cases h
      exact List.forall_mem_nil _
  | cons d ds ih =>
      rw [List.forall_mem_cons] at hds
      simp only [recordFields, Except.bind_ok_iff, Except.pure_ok_iff] at h
      obtain ⟨attrs, -, rest, hrest, rfl⟩ := h
      refine List.forall_mem_cons.2 ⟨?_, ih hds.2 hrest⟩
      rcases hname : d.name with _ | n
      · refine .inl ?_
        show isFieldName (toString k) = true
        rw [isFieldName, isPosition_toString, Bool.or_true]
      · rcases hds.1 n hname with hn | hn
        · exact .inl (by simp [isFieldName, isIdentifier_of_names hn])
        · exact .inr hn

theorem fits_of_ofStruct {d : StructDecl} {r : Record} (hd : (Item.struct d).Sound IsWord)
    (h : ofStruct d = .ok r) :
    (Declaration.record r).Fits (isIdentifier · = true) isSourceFieldName := by
  simp only [ofStruct, Except.guard_ok_iff, Except.bind_ok_iff, Except.pure_ok_iff] at h
  obtain ⟨-, attrs, -, fields, hfields, rfl⟩ := h
  refine ⟨isIdentifier_of_names hd.1, fun r hr => ?_⟩
  cases hr
  exact fieldNames_of_recordFields hd.2 hfields

theorem fits_of_not_record {d : Declaration} {okField : String → Prop}
    (hname : isIdentifier d.name = true) (hkind : d.kind ≠ .record) :
    d.Fits (isIdentifier · = true) okField :=
  ⟨hname, fun _ hr => absurd (hr ▸ rfl) hkind⟩

/-- An item whose names are words stands for declarations with names that fit. -/
theorem fits_of_ofItem {i : Item} {ds : List Declaration} (hi : i.Sound IsWord)
    (h : ofItem i = .ok ds) : ∀ d ∈ ds, d.Fits (isIdentifier · = true) isSourceFieldName := by
  cases i with
  | struct s =>
      simp only [ofItem, Except.bind_ok_iff, Except.pure_ok_iff] at h
      obtain ⟨r, hr, rfl⟩ := h
      exact List.forall_mem_singleton.2 (fits_of_ofStruct hi hr)
  | enum e =>
      simp only [ofItem, ofEnum, Except.bind_ok_iff, Except.pure_ok_iff] at h
      obtain ⟨_, ⟨attrs, -, rfl⟩, rfl⟩ := h
      exact List.forall_mem_singleton.2
        (fits_of_not_record (isIdentifier_of_names hi) (by simp [Declaration.kind]))
  | invocation path content =>
      simp only [ofItem] at h
      split at h
      · simp only [Except.bind_ok_iff, Except.mapError_ok_iff] at h
        obtain ⟨entries, hentries, h⟩ := h
        intro d hd
        obtain ⟨e, he, hed⟩ := Except.exists_of_mapM_ok h d hd
        simp only [ofFlags, Except.map_ok_iff, Except.bind_ok_iff, Except.pure_ok_iff] at hed
        obtain ⟨_, ⟨attrs, -, rfl⟩, rfl⟩ := hed
        exact fits_of_not_record
          (isIdentifier_of_names (FlagDecl.names_of_parseFlags hi hentries e he))
          (by simp [Declaration.kind])
      · cases h
  | useItem =>
      cases h
      exact List.forall_mem_nil _
  | _ => cases h

/-- A file is parsed from tokens whose words are read back as themselves. -/
theorem tokens_of_parseFile {text : String} {items : List Item} (h : parseFile text = .ok items) :
    ∃ ts, WordsAll IsWord ts ∧ parseAll fileItems ts = .ok items := by
  unfold parseFile at h
  split at h
  · next ts hlex => exact ⟨ts, isWord_of_lex hlex, h⟩
  · cases h

theorem areWords_of_parseFile {text : String} {items : List Item}
    (h : parseFile text = .ok items) : ∀ i ∈ items, i.Whole IsWord := by
  obtain ⟨ts, hts, hparse⟩ := tokens_of_parseFile h
  exact Item.whole_of_parseAll hts hparse

theorem fits_of_ofSource {text : String} {ds : List Declaration} (h : ofSource text = .ok ds) :
    ∀ d ∈ ds, d.Fits (isIdentifier · = true) isSourceFieldName := by
  simp only [ofSource, ofItems, Except.bind_ok_iff, Except.mapError_ok_iff,
    Except.pure_ok_iff] at h
  obtain ⟨items, hitems, _, ⟨parts, hparts, rfl⟩, -, -, rfl⟩ := h
  intro d hd
  obtain ⟨part, hpart, hd⟩ := List.mem_flatten.1 hd
  obtain ⟨i, hi, hpart⟩ := Except.exists_of_mapM_ok hparts part hpart
  exact fits_of_ofItem (areWords_of_parseFile hitems i hi).1 hpart d hd

theorem nodup_of_ofSource {text : String} {ds : List Declaration} (h : ofSource text = .ok ds) :
    (ds.map Declaration.name).Nodup := by
  simp only [ofSource, Except.bind_ok_iff, Except.pure_ok_iff] at h
  obtain ⟨_, -, _, -, _, hunique, rfl⟩ := h
  exact checkUnique_eq_ok.1 hunique

/-! ## Declarations of a document -/

theorem ofDocument_eq_ok {text : String} {ds : List Declaration} :
    ofDocument text = .ok ds ↔ ∃ version, Document.parse text = .ok ⟨version, ds⟩ ∧
      isVersion documentVersion version = true ∧
      (∀ d ∈ ds, d.Fits (isIdentifier · = true) (isFieldName · = true)) ∧
      (ds.map Declaration.name).Nodup := by
  simp only [ofDocument, Except.bind_ok_iff, Except.guard_ok_iff, Except.mapError_ok_iff,
    Except.pure_ok_iff]
  constructor
  · rintro ⟨⟨version, decls⟩, hparse, hversion, _, hnames, _, hunique, rfl⟩
    exact ⟨version, hparse, by simpa using hversion, checkNames_eq_ok.1 hnames,
      checkUnique_eq_ok.1 hunique⟩
  · rintro ⟨version, hparse, hversion, hnames, hunique⟩
    exact ⟨⟨version, ds⟩, hparse, by simp [hversion], (), checkNames_eq_ok.2 hnames, (),
      checkUnique_eq_ok.2 hunique, rfl⟩

/-! ## Both -/

/-- The declarations were read from a source text or from a document. -/
inductive Loaded (ds : List Declaration) : Prop
  | ofSource (text : String) (h : ofSource text = .ok ds)
  | ofDocument (text : String) (h : ofDocument text = .ok ds)

namespace Loaded

variable {ds : List Declaration}

theorem nodup (h : Loaded ds) : (ds.map Declaration.name).Nodup := by
  cases h with
  | ofSource text h => exact nodup_of_ofSource h
  | ofDocument text h =>
      obtain ⟨_, -, -, -, hunique⟩ := ofDocument_eq_ok.1 h
      exact hunique

/-- The names that a source text admits are all that either way of loading lets through. -/
theorem fits (h : Loaded ds) : ∀ d ∈ ds, d.Fits (isIdentifier · = true) isSourceFieldName := by
  cases h with
  | ofSource text h => exact fits_of_ofSource h
  | ofDocument text h =>
      obtain ⟨_, -, -, hnames, -⟩ := ofDocument_eq_ok.1 h
      exact fun d hd => ⟨(hnames d hd).name, fun r hr f hf => .inl ((hnames d hd).field r hr f hf)⟩

end Loaded

end NodeIdGen.Schema
