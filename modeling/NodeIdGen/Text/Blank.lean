/-!
# White space

The Unicode property `White_Space`, and trimming by it. Core's `Char.isWhitespace` knows only five
ASCII characters; `isBlank_of_isWhitespace` says that they are all in the wider class.
-/

namespace NodeIdGen.Text

/-- The Unicode property `White_Space`. -/
def isBlank (c : Char) : Bool :=
  let n := c.toNat
  (0x9 ≤ n && n ≤ 0xd) || n == 0x20 || n == 0x85 || n == 0xa0 || n == 0x1680 ||
    (0x2000 ≤ n && n ≤ 0x200a) || n == 0x2028 || n == 0x2029 || n == 0x202f || n == 0x205f ||
    n == 0x3000

theorem isBlank_of_isWhitespace {c : Char} (h : c.isWhitespace = true) : isBlank c = true := by
  simp only [Char.isWhitespace, Bool.or_eq_true, decide_eq_true_eq] at h
  rcases h with ((rfl | rfl) | rfl) | rfl <;> decide

/-- The text without the white space at its two ends. -/
def trim (s : List Char) : List Char :=
  ((s.dropWhile isBlank).reverse.dropWhile isBlank).reverse

/-- White space at the two ends does not count, whatever is between. -/
theorem trim_append {before after : List Char} (hbefore : ∀ c ∈ before, isBlank c = true)
    (hafter : ∀ c ∈ after, isBlank c = true) (s : List Char) :
    trim (before ++ s ++ after) = trim s := by
  have nothing : after.dropWhile isBlank = [] := by
    have := @List.dropWhile_append_of_pos _ isBlank after [] hafter
    rwa [List.append_nil] at this
  have front : (before ++ s ++ after).dropWhile isBlank =
      if (s.dropWhile isBlank).isEmpty then [] else s.dropWhile isBlank ++ after := by
    rw [List.append_assoc, List.dropWhile_append_of_pos hbefore, List.dropWhile_append, nothing]
  unfold trim
  rw [front]
  split
  · next h => rw [List.isEmpty_iff.1 h]
  · rw [List.reverse_append,
      List.dropWhile_append_of_pos fun c hc => hafter c (List.mem_reverse.1 hc)]

/-- A text is its trimmed part between white space. -/
theorem exists_append_trim (s : List Char) : ∃ before after, (∀ c ∈ before, isBlank c = true) ∧
    (∀ c ∈ after, isBlank c = true) ∧ s = before ++ trim s ++ after := by
  have blank (l : List Char) : ∀ c ∈ l.takeWhile isBlank, isBlank c = true :=
    List.all_eq_true.1 List.all_takeWhile
  let front := s.dropWhile isBlank
  refine ⟨s.takeWhile isBlank, (front.reverse.takeWhile isBlank).reverse, blank s, ?_, ?_⟩
  · intro c hc
    exact blank _ c (List.mem_reverse.1 hc)
  · have behind : front = trim s ++ (front.reverse.takeWhile isBlank).reverse := by
      rw [trim, ← List.reverse_append, List.takeWhile_append_dropWhile, List.reverse_reverse]
    rw [List.append_assoc, ← behind, List.takeWhile_append_dropWhile]

end NodeIdGen.Text
