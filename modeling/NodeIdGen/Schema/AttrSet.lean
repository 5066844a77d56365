/-!
# Sets of markers

A set of markers is the strictly ascending list of its members, so that two sets are equal when
they have the same members, however they were built (`ext_mem`). `mem_insert` and `mem_ofList` say
what the operations do to the members.
-/

namespace NodeIdGen.Schema

/-- A set of markers: its members in ascending order, each once. -/
@[ext] structure AttrSet where
  items : List String
  ascending : items.Pairwise (· < ·)
  deriving DecidableEq

namespace AttrSet

def contains (s : AttrSet) (m : String) : Bool :=
  s.items.contains m

instance : Membership String AttrSet := ⟨fun s m => m ∈ s.items⟩

theorem mem_iff {s : AttrSet} {m : String} : m ∈ s ↔ m ∈ s.items := Iff.rfl

@[simp] theorem contains_iff {s : AttrSet} {m : String} : s.contains m = true ↔ m ∈ s := by
  simp [contains, mem_iff]

def size (s : AttrSet) : Nat :=
  s.items.length

def isEmpty (s : AttrSet) : Bool :=
  s.items.isEmpty

def empty : AttrSet := ⟨[], .nil⟩

instance : EmptyCollection AttrSet := ⟨empty⟩

instance : Inhabited AttrSet := ⟨∅⟩

/-- Puts a marker in its place among ascending ones, unless it is there. -/
def insertInto (m : String) : List String → List String
  | [] => [m]
  | n :: ns =>
    if m < n then m :: n :: ns
    else if m = n then n :: ns
    else n :: insertInto m ns

theorem mem_insertInto {m x : String} {l : List String} :
    x ∈ insertInto m l ↔ x = m ∨ x ∈ l := by
  induction l with
  | nil => simp [insertInto]
  | cons n ns ih =>
    simp only [insertInto]
    split
    · simp
    · split
      · next h => subst h; simp
      · simp only [List.mem_cons, ih]
        constructor <;> rintro (h | h | h) <;> simp [h]

theorem pairwise_insertInto {m : String} {l : List String} (h : l.Pairwise (· < ·)) :
    (insertInto m l).Pairwise (· < ·) := by
  induction l with
  | nil => simp [insertInto]
  | cons n ns ih =>
    obtain ⟨hn, hns⟩ := List.pairwise_cons.1 h
    simp only [insertInto]
    split
    · next hlt =>
      refine List.pairwise_cons.2 ⟨?_, h⟩
      intro x hx
      rcases List.mem_cons.1 hx with rfl | hx
      · exact hlt
      · exact String.lt_trans hlt (hn x hx)
    · next hnlt =>
      split
      · exact h
      · next hne =>
        refine List.pairwise_cons.2 ⟨?_, ih hns⟩
        intro x hx
        rcases mem_insertInto.1 hx with rfl | hx
        · exact Std.lt_of_le_of_ne (String.not_lt.1 hnlt) (Ne.symm hne)
        · exact hn x hx

/-- The set with one more marker. -/
def insert (s : AttrSet) (m : String) : AttrSet :=
  ⟨insertInto m s.items, pairwise_insertInto s.ascending⟩

/-- The set with one more marker, and whether the marker is new. -/
def insertNew (s : AttrSet) (m : String) : AttrSet × Bool :=
  (s.insert m, !s.contains m)

@[simp] theorem mem_insert {s : AttrSet} {m x : String} : x ∈ s.insert m ↔ x = m ∨ x ∈ s :=
  mem_insertInto

def ofList (ms : List String) : AttrSet :=
  ms.foldl insert ∅

@[simp] theorem not_mem_empty {m : String} : ¬ m ∈ (∅ : AttrSet) := by
  simp [mem_iff, EmptyCollection.emptyCollection, empty]

theorem mem_foldl_insert {ms : List String} {s : AttrSet} {m : String} :
    m ∈ ms.foldl insert s ↔ m ∈ ms ∨ m ∈ s := by
  induction ms generalizing s with
  | nil => simp
  | cons n ns ih =>
    simp only [List.foldl_cons, ih, mem_insert, List.mem_cons]
    constructor
    · rintro (h | h | h) <;> simp [h]
    · rintro ((h | h) | h) <;> simp [h]

@[simp] theorem mem_ofList {ms : List String} {m : String} : m ∈ ofList ms ↔ m ∈ ms := by
  simp [ofList, mem_foldl_insert]

theorem nodup_items (s : AttrSet) : s.items.Nodup :=
  s.ascending.imp String.ne_of_lt

/-- Ascending lists with the same entries are equal, so sets with the same members are. -/
theorem ext_mem {s t : AttrSet} (h : ∀ m, m ∈ s ↔ m ∈ t) : s = t := by
  refine AttrSet.ext ?_
  exact ((List.perm_ext_iff_of_nodup s.nodup_items t.nodup_items).2 h).eq_of_pairwise
    (fun m n _ _ hmn hnm => absurd hnm (String.lt_asymm hmn)) s.ascending t.ascending

/-- The set of the members that are listed, whatever their order. -/
theorem ofList_eq {s : AttrSet} {ms : List String} (h : ∀ m, m ∈ ms ↔ m ∈ s) : ofList ms = s :=
  ext_mem fun m => mem_ofList.trans (h m)

theorem ofList_items (s : AttrSet) : ofList s.items = s :=
  ofList_eq fun _ => Iff.rfl

theorem insert_of_mem {s : AttrSet} {m : String} (h : m ∈ s) : s.insert m = s := by
  refine ext_mem fun x => ?_
  rw [mem_insert]
  constructor
  · rintro (rfl | hx)
    · exact h
    · exact hx
  · exact .inr

end AttrSet

end NodeIdGen.Schema
