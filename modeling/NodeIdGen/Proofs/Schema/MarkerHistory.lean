import Mathlib.Data.List.Induction
import Mathlib.Data.Set.Card
import NodeIdGen.Proofs.Text.ByteOrder
import NodeIdGen.Schema.AttrSet

/-!
# A set of markers and its history

A set of markers comes about by operations. Some replace it: by the set without markers, by that of
a collection or of a pair. One adds a marker. `Given` tells from the history alone which markers
count: those that an operation gave, if no operation behind it replaced the set. What one operation
does to the members is `mem_apply`, and by induction over the history the members are the given
markers and no others (`mem_ofHistory`).

So the stored list depends on the given markers only. It is the one list of them in which the bytes
of each marker are below those of the next, however often and in whatever order they were given.
-/

namespace NodeIdGen.Schema.AttrSet

open NodeIdGen.Text

/-! ## Operations -/

/-- An operation on a set of markers. -/
inductive Operation
  /-- Replaces the set by the one without markers. -/
  | new
  /-- Replaces the set by that of a collection. -/
  | collect (ms : List String)
  /-- Replaces the set by that of a pair. -/
  | pair (m n : String)
  /-- Adds a marker. -/
  | insert (m : String)

namespace Operation

/-- The set behind the operation. -/
def apply (s : AttrSet) : Operation → AttrSet
  | .new => ∅
  | .collect ms => .ofList ms
  | .pair m n => .ofList [m, n]
  | .insert m => (s.insertNew m).1

/-- The markers that the operation gives. -/
def markers : Operation → List String
  | .new => []
  | .collect ms => ms
  | .pair m n => [m, n]
  | .insert m => [m]

/-- Nothing of the set before the operation is kept. -/
def replaces : Operation → Bool
  | .new | .collect _ | .pair _ _ => true
  | .insert _ => false

/-- Behind an operation the members are the markers that it gives and, unless it replaces the set,
those from before. -/
theorem mem_apply {s : AttrSet} {o : Operation} {m : String} :
    m ∈ o.apply s ↔ m ∈ o.markers ∨ o.replaces = false ∧ m ∈ s := by
  cases o with
  | new => simp [apply, markers, replaces]
  | collect ms => simp [apply, markers, replaces]
  | pair a b => simp [apply, markers, replaces]
  | insert n => simp [apply, insertNew, markers, replaces]

end Operation

/-! ## Histories -/

/-- The set behind a history of operations. -/
def ofHistory (history : List Operation) : AttrSet :=
  history.foldl Operation.apply ∅

theorem ofHistory_append (history : List Operation) (o : Operation) :
    ofHistory (history ++ [o]) = o.apply (ofHistory history) := by
  rw [ofHistory, List.foldl_append]
  rfl

/-- Some operation gave the marker, and none behind it replaced the set. -/
def Given (history : List Operation) (m : String) : Prop :=
  ∃ before o after, history = before ++ o :: after ∧ m ∈ o.markers ∧
    ∀ p ∈ after, p.replaces = false

theorem given_append {history : List Operation} {o : Operation} {m : String} :
    Given (history ++ [o]) m ↔ m ∈ o.markers ∨ o.replaces = false ∧ Given history m := by
  constructor
  · rintro ⟨before, p, after, hsplit, hm, hafter⟩
    -- the operation that gave the marker is the last one, or the last one stands behind it
    rcases List.eq_nil_or_concat after with rfl | ⟨after, q, rfl⟩
    · obtain ⟨-, hlast⟩ := List.append_inj' hsplit rfl
      cases hlast
      exact .inl hm
    · rw [List.concat_eq_append] at hsplit hafter
      rw [← List.cons_append, ← List.append_assoc] at hsplit
      obtain ⟨rfl, hlast⟩ := List.append_inj' hsplit rfl
      cases hlast
      rw [List.forall_mem_append] at hafter
      exact .inr ⟨hafter.2 o List.mem_cons_self, before, p, after, rfl, hm, hafter.1⟩
  · rintro (hm | ⟨ho, before, p, after, rfl, hm, hafter⟩)
    · exact ⟨history, o, [], rfl, hm, List.forall_mem_nil _⟩
    · refine ⟨before, p, after ++ [o], by simp, hm, ?_⟩
      exact List.forall_mem_append.2 ⟨hafter, List.forall_mem_singleton.2 ho⟩

theorem mem_ofHistory {history : List Operation} {m : String} :
    m ∈ ofHistory history ↔ Given history m := by
  induction history using List.reverseRecOn with
  | nil =>
      constructor
      · intro h
        exact absurd h not_mem_empty
      · rintro ⟨before, o, after, h, -⟩
        simp at h
  | append_singleton history o ih =>
      rw [ofHistory_append, Operation.mem_apply, given_append, ih]

/-! ## What is stored -/

variable {s : AttrSet}

/-- The members are stored in the order of their bytes. -/
theorem ascending_utf8 (s : AttrSet) : s.items.Pairwise fun m n => utf8 m < utf8 n :=
  s.ascending.imp utf8_lt_iff.2

/-- Only one list in the order of bytes has the given members. -/
theorem eq_items_iff {ms : List String} :
    ms = s.items ↔ (ms.Pairwise fun m n => utf8 m < utf8 n) ∧ ∀ m, m ∈ ms ↔ m ∈ s := by
  constructor
  · rintro rfl
    exact ⟨s.ascending_utf8, fun m => Iff.rfl⟩
  · rintro ⟨hms, hmem⟩
    have same : (⟨ms, hms.imp utf8_lt_iff.1⟩ : AttrSet) = s := ext_mem hmem
    exact congrArg items same

theorem encard_members (s : AttrSet) : {m | m ∈ s}.encard = s.size := by
  have members : {m | m ∈ s} = (s.items.toFinset : Set String) := by
    ext m
    simp [mem_iff]
  rw [members, Set.encard_coe_eq_coe_finsetCard, List.toFinset_card_of_nodup s.nodup_items]
  rfl

/-- Behind any history the stored list is the one list of the given markers in the order of their
bytes; membership is to have been given; a marker is reported as new exactly if it was not, and one
that is not new changes nothing; the size is the number of given markers; and two histories make one
set exactly if they have given the same markers. -/
theorem ofHistory_canonical (history : List Operation) :
    ((ofHistory history).items.Pairwise fun m n => utf8 m < utf8 n) ∧
    (ofHistory history).items.Nodup ∧
    (∀ ms, ms = (ofHistory history).items ↔
      (ms.Pairwise fun m n => utf8 m < utf8 n) ∧ ∀ m, m ∈ ms ↔ Given history m) ∧
    (∀ m, (ofHistory history).contains m = true ↔ Given history m) ∧
    (∀ m, ((ofHistory history).insertNew m).2 = true ↔ ¬ Given history m) ∧
    (∀ m, Given history m → ((ofHistory history).insertNew m).1 = ofHistory history) ∧
    {m | Given history m}.encard = (ofHistory history).size ∧
    ∀ other, ofHistory history = ofHistory other ↔ ∀ m, Given history m ↔ Given other m := by
  refine ⟨ascending_utf8 _, nodup_items _, fun ms => ?_, fun m => ?_, fun m => ?_, fun m hm => ?_,
    ?_, fun other => ?_⟩
  · simp only [eq_items_iff, mem_ofHistory]
  · rw [contains_iff, mem_ofHistory]
  · rw [insertNew, Bool.not_eq_true', ← Bool.not_eq_true, contains_iff, mem_ofHistory]
  · exact insert_of_mem (mem_ofHistory.2 hm)
  · simp only [← mem_ofHistory, encard_members]
  · simp only [← mem_ofHistory]
    constructor
    · intro h m
      rw [h]
    · exact ext_mem

/-- A marker from before the last collection is forgotten, and the others are put in the order of
their bytes, in which `😀` stands behind `\uffff`. A pair and two more markers make the same set. -/
theorem collected_again :
    ∃ history other : List Operation,
      history = [.insert "b", .collect ["😀", "ä", "😀"], .insert "\uffff", .insert "ä"] ∧
      other = [.new, .insert "b", .pair "\uffff" "😀", .insert "😀", .insert "ä"] ∧
      (ofHistory history).items = ["ä", "\uffff", "😀"] ∧
      {m | Given history m}.encard = 3 ∧
      Given history "ä" ∧ ((ofHistory history).insertNew "ä").1 = ofHistory history ∧
      ¬ Given history "b" ∧ ((ofHistory history).insertNew "b").2 = true ∧
      ∀ m, Given history m ↔ Given other m := by
  refine ⟨_, _, rfl, rfl, ?_⟩
  obtain ⟨-, -, -, member, new, old, size, same⟩ := ofHistory_canonical
    [.insert "b", .collect ["😀", "ä", "😀"], .insert "\uffff", .insert "ä"]
  have given : Given [.insert "b", .collect ["😀", "ä", "😀"], .insert "\uffff", .insert "ä"] "ä" :=
    ⟨[.insert "b"], .collect ["😀", "ä", "😀"], [.insert "\uffff", .insert "ä"], rfl, by decide,
      by decide⟩
  have forgotten := mt (member "b").2 (by decide +kernel)
  refine ⟨by decide +kernel, size, given, old _ given, forgotten, (new _).2 forgotten, ?_⟩
  exact (same _).1 (by decide +kernel)

end NodeIdGen.Schema.AttrSet
