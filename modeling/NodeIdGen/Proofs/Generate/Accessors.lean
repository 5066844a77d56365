import NodeIdGen.Proofs.Generate.Body
import NodeIdGen.Proofs.Schema.Loading

/-!
# The accessors of a schema

Each accessor is about a record of the schema and one of its fields, and they are in the order of
the declarations. So what loading establishes of the names of a schema holds of the names in its
accessors, and each of these stands in one line.
-/

namespace NodeIdGen.Generate

open NodeIdGen.Schema NodeIdGen.Syntax NodeIdGen.Text

variable {ds : List Declaration} {as : List Accessor} {ts : String} {r : Report}

theorem accessors_of_report (h : report ds ts = .ok r) : accessors ds = .ok r.accessors := by
  simp only [report_eq_accessors, Except.bind_ok_iff, Except.pure_ok_iff] at h
  obtain ⟨as, has, rfl⟩ := h
  exact has

theorem document_of_report (h : report ds ts = .ok r) : r.document = document ts r.accessors := by
  simp only [report_eq_accessors, Except.bind_ok_iff, Except.pure_ok_iff] at h
  obtain ⟨as, -, rfl⟩ := h
  rfl

/-! ## The records and their fields -/

/-- The records of the accessors are in the order of the declarations. -/
theorem records_sublist (h : accessors ds = .ok as) :
    (as.map Accessor.record).Sublist (ds.map Declaration.name) := by
  induction ds generalizing as with
  | nil =>
      cases h
      exact .slnil
  | cons d ds ih =>
      rw [accessors] at h
      split at h
      · exact (ih h).cons _
      · exact (ih h).cons _
      · simp only [Except.bind_ok_iff, Except.pure_ok_iff] at h
        obtain ⟨rest, hrest, rfl⟩ := h
        exact (ih hrest).cons_cons _
      · cases h

theorem mem_of_nodeId? {r : Record} {field : String} (h : nodeId? r = .ok (some field)) :
    ∃ f ∈ r.fields, f.name = field := by
  unfold nodeId? at h
  split at h
  · cases h
  · split at h
    · simp only [Except.ok.injEq, Option.map_eq_some_iff] at h
      obtain ⟨f, hf, hname⟩ := h
      exact ⟨f, List.mem_of_find?_eq_some hf, hname⟩
    · next f hf =>
      cases h
      have : f ∈ r.fields.filter isMarked := hf ▸ List.mem_singleton_self f
      exact ⟨f, (List.mem_filter.1 this).1, rfl⟩
    · cases h

/-- An accessor is decided for a record, and projects a field of it. -/
theorem mem_of_decisionOf {d : Declaration} {field : String} (h : decisionOf d = .accessor field) :
    ∃ r, d = .record r ∧ ∃ f ∈ r.fields, f.name = field := by
  unfold decisionOf at h
  split at h
  · cases h
  · cases h
  · next r =>
    split at h
    · cases h
    · next found =>
      cases h
      exact ⟨r, rfl, mem_of_nodeId? found⟩
    · cases h

/-- What holds of the names of all declarations holds of the names in the accessors. -/
theorem names_of_accessors {okName okField : String → Prop}
    (hds : ∀ d ∈ ds, d.Fits okName okField) (h : accessors ds = .ok as) :
    ∀ a ∈ as, okName a.record ∧ okField a.field := by
  induction ds generalizing as with
  | nil =>
      cases h
      exact List.forall_mem_nil _
  | cons d ds ih =>
      rw [List.forall_mem_cons] at hds
      rw [accessors] at h
      split at h
      · exact ih hds.2 h
      · exact ih hds.2 h
      · next field hfield =>
        simp only [Except.bind_ok_iff, Except.pure_ok_iff] at h
        obtain ⟨rest, hrest, rfl⟩ := h
        obtain ⟨r, hd, f, hf, rfl⟩ := mem_of_decisionOf hfield
        exact List.forall_mem_cons.2 ⟨⟨hds.1.name, hds.1.field r hd f hf⟩, ih hds.2 hrest⟩
      · cases h

/-! ## Names stand in one line -/

theorem unbroken_of_isIdentifier {n : String} (h : isIdentifier n = true) :
    Unbroken n.toList := by
  intro c hc
  rcases mem_of_isWord (isIdentifier_iff.1 h).1 c hc with hs | hg
  · constructor <;> rintro rfl <;> cases hs
  · constructor <;> rintro rfl <;> cases hg

theorem unbroken_of_isPosition {n : String} (h : isPosition n = true) : Unbroken n.toList := by
  rcases isPosition_iff.1 h with rfl | ⟨c, cs, hcs, -, hdigits⟩
  · decide
  · intro d hd
    have := hdigits d (hcs ▸ hd)
    constructor <;> rintro rfl <;> cases this

theorem unbroken_of_isSourceFieldName {n : String} (h : isSourceFieldName n) :
    Unbroken n.toList := by
  rcases h with h | rfl
  · rw [isFieldName, Bool.or_eq_true] at h
    rcases h with h | h
    · exact unbroken_of_isIdentifier h
    · exact unbroken_of_isPosition h
  · decide

theorem oneLine_of_loaded (hds : Loaded ds) (h : accessors ds = .ok as) :
    ∀ a ∈ as, a.OneLine := by
  intro a ha
  obtain ⟨hrecord, hfield⟩ := names_of_accessors hds.fits h a ha
  exact ⟨unbroken_of_isIdentifier hrecord, unbroken_of_isSourceFieldName hfield⟩

end NodeIdGen.Generate
