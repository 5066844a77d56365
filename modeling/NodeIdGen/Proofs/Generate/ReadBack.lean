import NodeIdGen.Proofs.Generate.Accessors

/-!
# What can be read off a document

Whoever looks at the lines of a document that start as the first line of an accessor does, or as the
line that projects the field, sees the records and the fields of its accessors, all of them and in
their order. No time stamp can add such a line: it stands in one line whatever it holds, and that
line starts with the mark of a comment.

This is about declarations that were loaded. A name with a line break in it, which loading refuses,
could spell an accessor of its own.
-/

namespace NodeIdGen.Generate

open NodeIdGen.Schema NodeIdGen.Text

variable {ts : String} {as : List Accessor} {a : Accessor}

/-! ## Lines that tell of a record or of a field -/

/-- The record that a line tells of, if the line starts an accessor. -/
def recordOfLine? (line : List Char) : Option String :=
  (behind? "impl GetNodeId for ".toList line).map fun rest =>
    String.ofList ((rest.dropSuffix? " \x7b".toList).getD rest)

/-- The field that a line tells of, if the line projects one. -/
def fieldOfLine? (line : List Char) : Option String :=
  (behind? "        self.".toList line).map String.ofList

/-- The records that the lines of a document tell of. -/
def recordsIn (doc : String) : List String :=
  (linesOf doc.toList).filterMap recordOfLine?

/-- The fields that the lines of a document tell of. -/
def fieldsIn (doc : String) : List String :=
  (linesOf doc.toList).filterMap fieldOfLine?

/-! ## The lines of a document -/

theorem linesOf_document (ts : String) (h : ∀ a ∈ as, a.OneLine) :
    linesOf (document ts as).toList =
      generatedMarker.toList :: producedLine ts :: as.flatMap Accessor.block := by
  have chars : (document ts as).toList =
      generatedMarker.toList ++ '\n' :: (producedLine ts ++ '\n' :: bodyOf as) := by
    simp only [document, headerChars, String.toList_ofList, List.append_assoc, List.cons_append,
      List.nil_append]
  have marker : Unbroken generatedMarker.toList := by decide
  rw [chars, linesOf_line marker, linesOf_line (unbroken_producedLine ts), bodyOf_eq_lines,
    linesOf_lines (unbroken_blocks h)]

theorem behind?_cons_of_ne {c d : Char} (h : c ≠ d) (start text : List Char) :
    behind? (c :: start) (d :: text) = none := by
  rw [behind?, if_neg]
  simp [h]

theorem recordOfLine?_first (record : List Char) :
    recordOfLine? ("impl GetNodeId for ".toList ++ (record ++ " \x7b".toList)) =
      some (String.ofList record) := by
  have ending : (record ++ " \x7b".toList).dropSuffix? " \x7b".toList = some record :=
    List.dropSuffix?_eq_some_iff.2 ⟨_, rfl, by decide⟩
  rw [recordOfLine?, behind?_append, Option.map_some, ending, Option.getD_some]

theorem recordsIn_block (a : Accessor) : a.block.filterMap recordOfLine? = [a.record] := by
  have first : recordOfLine? ("impl ".toList ++ accessorTrait.toList ++ " for ".toList ++
      a.record.toList ++ " \x7b".toList) = some a.record := by
    have := recordOfLine?_first a.record.toList
    rwa [String.ofList_toList] at this
  have projection : recordOfLine? ("        self.".toList ++ a.field.toList) = none := by
    rw [recordOfLine?]
    exact congrArg _ (behind?_cons_of_ne (by decide) _ _)
  rw [Accessor.block, Accessor.lines, List.filterMap_cons_none rfl, List.filterMap_cons_some first,
    List.filterMap_cons_none rfl, List.filterMap_cons_none projection]
  rfl

theorem fieldsIn_block (a : Accessor) : a.block.filterMap fieldOfLine? = [a.field] := by
  have first : fieldOfLine? ("impl ".toList ++ accessorTrait.toList ++ " for ".toList ++
      a.record.toList ++ " \x7b".toList) = none :=
    congrArg _ (behind?_cons_of_ne (by decide) _ _)
  have projection : fieldOfLine? ("        self.".toList ++ a.field.toList) = some a.field := by
    rw [fieldOfLine?, behind?_append, Option.map_some, String.ofList_toList]
  rw [Accessor.block, Accessor.lines, List.filterMap_cons_none rfl, List.filterMap_cons_none first,
    List.filterMap_cons_none rfl, List.filterMap_cons_some projection]
  rfl

/-- What the lines of each accessor tell, the lines of a document tell in the same order, if its
header tells nothing. -/
theorem filterMap_linesOf_document {f : List Char → Option String} {g : Accessor → String}
    (hmarker : f generatedMarker.toList = none) (hstamp : f (producedLine ts) = none)
    (hblock : ∀ a : Accessor, a.block.filterMap f = [g a]) (h : ∀ a ∈ as, a.OneLine) :
    (linesOf (document ts as).toList).filterMap f = as.map g := by
  rw [linesOf_document ts h, List.filterMap_cons_none hmarker, List.filterMap_cons_none hstamp,
    List.filterMap_flatMap]
  simp only [hblock]
  exact List.flatMap_pure_eq_map g as

theorem recordsIn_document (h : ∀ a ∈ as, a.OneLine) :
    recordsIn (document ts as) = as.map Accessor.record :=
  filterMap_linesOf_document rfl (congrArg _ (behind?_cons_of_ne (by decide) _ _)) recordsIn_block h

theorem fieldsIn_document (h : ∀ a ∈ as, a.OneLine) :
    fieldsIn (document ts as) = as.map Accessor.field :=
  filterMap_linesOf_document rfl (congrArg _ (behind?_cons_of_ne (by decide) _ _)) fieldsIn_block h

/-! ## Documents of loaded declarations -/

/-- A document is a faithful record of what was decided: two of them agree without the lines of
their time stamps exactly if their accessors do, and in each of them the lines tell of the records
and the fields of its accessors, in their order. -/
theorem document_tells_accessors {ds₁ ds₂ : List Declaration} {ts₁ ts₂ : String} {r₁ r₂ : Report}
    (hds₁ : Loaded ds₁) (hds₂ : Loaded ds₂) (hr₁ : report ds₁ ts₁ = .ok r₁)
    (hr₂ : report ds₂ ts₂ = .ok r₂) :
    (body? r₁.document = body? r₂.document ↔ r₁.accessors = r₂.accessors) ∧
    ∀ r ∈ [r₁, r₂], recordsIn r.document = r.accessors.map Accessor.record ∧
      fieldsIn r.document = r.accessors.map Accessor.field := by
  have h₁ := oneLine_of_loaded hds₁ (accessors_of_report hr₁)
  have h₂ := oneLine_of_loaded hds₂ (accessors_of_report hr₂)
  have tells : ∀ {ds ts} {r : Report}, report ds ts = .ok r → (∀ a ∈ r.accessors, a.OneLine) →
      recordsIn r.document = r.accessors.map Accessor.record ∧
        fieldsIn r.document = r.accessors.map Accessor.field := by
    intro ds ts r hr h
    rw [document_of_report hr]
    exact ⟨recordsIn_document h, fieldsIn_document h⟩
  refine ⟨?_, ?_⟩
  · rw [document_of_report hr₁, document_of_report hr₂]
    exact body?_document_eq_iff h₁ h₂
  · intro r hr
    rcases List.mem_pair.1 hr with rfl | rfl
    · exact tells hr₁ h₁
    · exact tells hr₂ h₂

/-- A schema with one accessor, as a source text. -/
def markedSource : String :=
  "struct A \x7b uid: u8, #[node_id] r#type: u8 \x7d struct B(u8);"

/-- Its declarations. -/
def markedSourceDeclarations : List Declaration :=
  [.record ⟨"A", ∅, [⟨"uid", ∅⟩, ⟨"r#type", .ofList [identifierField]⟩]⟩,
   .record ⟨"B", ∅, [⟨"0", ∅⟩]⟩]

/-- A schema with the same accessor, as a document. -/
def markedDocument : String :=
  "\x7b\"schema_version\": \"astgen.schema@0.1.0\", \"decls\": [\x7b\"kind\": \"record\", " ++
  "\"name\": \"A\", \"fields\": [\x7b\"name\": \"r#type\", " ++
  "\"attrs\": [\"identifier-field\"]\x7d]\x7d]\x7d"

/-- Its declarations. -/
def markedDocumentDeclarations : List Declaration :=
  [.record ⟨"A", ∅, [⟨"r#type", .ofList [identifierField]⟩]⟩]

/-- A time stamp that imitates an accessor. -/
def imitation : String := "now\n\nimpl GetNodeId for B \x7b\n        self.0\n"

theorem imitated_accessor_not_told : ∃ r₁ r₂,
    ofSource markedSource = .ok markedSourceDeclarations ∧
    ofDocument markedDocument = .ok markedDocumentDeclarations ∧
    report markedSourceDeclarations imitation = .ok r₁ ∧
    report markedDocumentDeclarations "later" = .ok r₂ ∧
    body? r₁.document = body? r₂.document ∧
    recordsIn r₁.document = ["A"] ∧ fieldsIn r₁.document = ["r#type"] := by
  have hds₁ : ofSource markedSource = .ok markedSourceDeclarations :=
    Except.toOption_eq_some.1 (by decide +kernel)
  have hds₂ : ofDocument markedDocument = .ok markedDocumentDeclarations :=
    Except.toOption_eq_some.1 (by decide +kernel)
  have hr₁ : report markedSourceDeclarations imitation =
      .ok ⟨document imitation [⟨"A", "r#type"⟩], 2, 2, [⟨"A", "r#type"⟩]⟩ := rfl
  have hr₂ : report markedDocumentDeclarations "later" =
      .ok ⟨document "later" [⟨"A", "r#type"⟩], 1, 1, [⟨"A", "r#type"⟩]⟩ := rfl
  obtain ⟨hiff, htold⟩ := document_tells_accessors (.ofSource _ hds₁) (.ofDocument _ hds₂) hr₁ hr₂
  obtain ⟨hrecords, hfields⟩ := htold _ List.mem_cons_self
  exact ⟨_, _, hds₁, hds₂, hr₁, hr₂, hiff.2 rfl, hrecords, hfields⟩

end NodeIdGen.Generate
