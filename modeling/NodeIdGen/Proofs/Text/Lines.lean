import Mathlib.Data.List.Basic

/-!
# Lines

A line has no line break of its own, so it ends at the first one behind it, and a text that is made
of lines determines them: `linesOf` finds them again. A carriage return in front of a line break
belongs to the break, so that a line may hold neither of the two.
-/

namespace NodeIdGen.Text

/-- What stands behind a line starts at the first line break. -/
theorem dropWhile_line {line rest : List Char} (h : '\n' ∉ line) :
    (line ++ '\n' :: rest).dropWhile (· ≠ '\n') = '\n' :: rest := by
  rw [List.dropWhile_append_of_pos fun c hc => ?_]
  · rfl
  · simp only [decide_eq_true_eq]
    rintro rfl
    exact h hc

/-! ## Taking a text apart -/

/-- The text holds no end of a line, whichever way lines end. -/
def Unbroken (cs : List Char) : Prop :=
  ∀ c ∈ cs, c ≠ '\n' ∧ c ≠ '\r'

instance (cs : List Char) : Decidable (Unbroken cs) :=
  List.decidableBAll _ cs

theorem unbroken_append {l m : List Char} : Unbroken (l ++ m) ↔ Unbroken l ∧ Unbroken m :=
  List.forall_mem_append

theorem Unbroken.newline_not_mem {l : List Char} (h : Unbroken l) : '\n' ∉ l :=
  fun hmem => (h _ hmem).1 rfl

/-- The lines of a text, without their ends; the last one may lack its end. -/
def linesOf : List Char → List (List Char)
  | [] => []
  | '\n' :: cs => [] :: linesOf cs
  | '\r' :: '\n' :: cs => [] :: linesOf cs
  | c :: cs =>
    match linesOf cs with
    | [] => [[c]]
    | l :: ls => (c :: l) :: ls

/-- The first line ends at the first line break. -/
theorem linesOf_line {l : List Char} (h : Unbroken l) (rest : List Char) :
    linesOf (l ++ '\n' :: rest) = l :: linesOf rest := by
  induction l with
  | nil => rfl
  | cons c l ih =>
      obtain ⟨⟨hfeed, hreturn⟩, hl⟩ := List.forall_mem_cons.1 h
      rw [List.cons_append, linesOf, ih hl]
      · exact hfeed
      · intro cs hc
        exact absurd hc hreturn

theorem linesOf_lines {ls : List (List Char)} (h : ∀ l ∈ ls, Unbroken l) :
    linesOf (ls.flatMap (· ++ ['\n'])) = ls := by
  induction ls with
  | nil => rfl
  | cons l ls ih =>
      obtain ⟨hl, hls⟩ := List.forall_mem_cons.1 h
      rw [List.flatMap_cons, List.append_assoc, List.singleton_append, linesOf_line hl, ih hls]

end NodeIdGen.Text
