import Mathlib.Data.List.Induction
import NodeIdGen.Schema.Names
import NodeIdGen.Syntax.Literal

/-!
# Positions

A position is the decimal spelling of a number: digits, of which the first is a zero only if it is
the only one. So positions and numbers correspond to each other.
-/

namespace NodeIdGen.Schema

open NodeIdGen.Syntax

theorem value_of_isDigit {d : Char} (h : d.isDigit = true) :
    hexValue? d = some (d.toNat - '0'.toNat) ∧ d.toNat - '0'.toNat < 10 ∧
      (d.toNat - '0'.toNat).digitChar = d := by
  have all : ∀ n < 0x80, (Char.ofNat n).isDigit = true →
      hexValue? (Char.ofNat n) = some (n - '0'.toNat) ∧ n - '0'.toNat < 10 ∧
        (n - '0'.toNat).digitChar = Char.ofNat n := by
    decide +kernel
  have small : d.toNat < 0x80 :=
    Nat.lt_of_le_of_lt (Char.isDigit_iff_toNat.1 h).2 (by decide)
  have := all d.toNat small
  rw [Char.ofNat_toNat] at this
  exact this h

/-- The text of a position is made of digits and starts with a zero only if it is that zero. -/
theorem isPosition_iff {s : String} : isPosition s = true ↔
    s = "0" ∨ ∃ c cs, s.toList = c :: cs ∧ c ≠ '0' ∧ ∀ d ∈ c :: cs, d.isDigit = true := by
  unfold isPosition
  rw [Bool.or_eq_true, beq_iff_eq]
  refine or_congr_right ?_
  cases s.toList with
  | nil => simp
  | cons c cs => simp [and_assoc]

/-- A position is made of digits, at least one, the first of which is a zero only if it is the only
one. -/
theorem isPosition_iff_digits {s : String} : isPosition s = true ↔
    s ≠ "" ∧ (∀ c ∈ s.toList, '0' ≤ c ∧ c ≤ '9') ∧ ∀ cs, s.toList = '0' :: cs → cs = [] := by
  have digit (c : Char) : '0' ≤ c ∧ c ≤ '9' ↔ c.isDigit = true := by
    simp only [Char.isDigit, Bool.and_eq_true, decide_eq_true_eq]
    rfl
  simp only [digit]
  rw [isPosition_iff]
  constructor
  · rintro (rfl | ⟨c, cs, hs, hc, hdigits⟩)
    · refine ⟨by decide, List.forall_mem_singleton.2 rfl, fun cs hcs => ?_⟩
      cases hcs
      rfl
    · refine ⟨?_, hs ▸ hdigits, fun ds hds => ?_⟩
      · rintro rfl
        cases hs
      · rw [hs] at hds
        cases hds
        exact absurd rfl hc
  · rintro ⟨hne, hdigits, hzero⟩
    cases hs : s.toList with
    | nil => exact absurd (String.toList_eq_nil_iff.1 hs) hne
    | cons c cs =>
        rw [hs] at hdigits hzero
        by_cases hc : c = '0'
        · subst hc
          obtain rfl := hzero cs rfl
          exact .inl (String.toList_inj.1 hs)
        · exact .inr ⟨c, cs, rfl, hc, hdigits⟩

theorem toDigits_ofDigitChars {c : Char} {cs : List Char} (hc : c ≠ '0')
    (hcs : ∀ d ∈ c :: cs, d.isDigit = true) :
    Nat.toDigits 10 (Nat.ofDigitChars 10 (c :: cs) 0) = c :: cs := by
  induction cs using List.reverseRecOn with
  | nil =>
      obtain ⟨-, hlt, hchar⟩ := value_of_isDigit (hcs c List.mem_cons_self)
      rw [Nat.ofDigitChars_cons, Nat.ofDigitChars_nil, Nat.mul_zero, Nat.zero_add,
        Nat.toDigits_of_lt_base hlt, hchar]
  | append_singleton cs d ih =>
      rw [← List.cons_append, List.forall_mem_append, List.forall_mem_singleton] at hcs
      have ih := ih hcs.1
      obtain ⟨-, hlt, hchar⟩ := value_of_isDigit hcs.2
      -- no number but zero is spelled with a zero in front
      have hpos : Nat.ofDigitChars 10 (c :: cs) 0 ≠ 0 := by
        intro h0
        rw [h0] at ih
        cases ih
        exact hc rfl
      rw [← List.cons_append, Nat.ofDigitChars_append, Nat.ofDigitChars_cons, Nat.ofDigitChars_nil,
        Nat.toDigits_of_base_le (by decide) (by omega)]
      have hdiv : ∀ v x : Nat, x < 10 → (10 * v + x) / 10 = v ∧ (10 * v + x) % 10 = x := by omega
      rw [(hdiv _ _ hlt).1, (hdiv _ _ hlt).2, ih, hchar]

theorem exists_of_isPosition {s : String} (h : isPosition s = true) :
    ∃ d ds, s.toList = d :: ds ∧ d.isDigit = true := by
  rcases isPosition_iff.1 h with rfl | ⟨d, ds, hs, -, hds⟩
  · exact ⟨'0', [], rfl, by decide⟩
  · exact ⟨d, ds, hs, hds d List.mem_cons_self⟩

/-- A decimal number starts with a zero only if it is zero. -/
theorem toDigits_head (n : Nat) :
    n = 0 ∨ ∃ c cs, Nat.toDigits 10 n = c :: cs ∧ c ≠ '0' := by
  induction n using Nat.strongRecOn with
  | ind n ih =>
      by_cases hlt : n < 10
      · rcases Nat.eq_zero_or_pos n with h0 | hpos
        · exact .inl h0
        · refine .inr ⟨n.digitChar, [], Nat.toDigits_of_lt_base hlt, ?_⟩
          have : ∀ m < 10, 0 < m → m.digitChar ≠ '0' := by decide
          exact this n hlt hpos
      · rcases ih (n / 10) (by omega) with h0 | ⟨c, cs, hcs, hc⟩
        · omega
        · refine .inr ⟨c, cs ++ [(n % 10).digitChar], ?_, hc⟩
          rw [Nat.toDigits_of_base_le (by decide) (by omega), hcs]
          rfl

theorem ofDigitChars_toString (n : Nat) : Nat.ofDigitChars 10 (toString n).toList 0 = n := by
  rw [Nat.toString_eq_repr, Nat.toList_repr]
  exact Nat.ofDigitChars_ten_toDigits

theorem eq_of_toString_eq {n k : Nat} (h : toString n = toString k) : n = k := by
  rw [← ofDigitChars_toString n, h, ofDigitChars_toString]

theorem isPosition_toString (n : Nat) : isPosition (toString n) = true := by
  rcases toDigits_head n with rfl | ⟨c, cs, hcs, hc⟩
  · rfl
  · have digits : ∀ d ∈ c :: cs, d.isDigit = true :=
      fun d hd => Nat.isDigit_of_mem_toDigits (by decide) (by decide) (hcs ▸ hd)
    have htext : (toString n).toList = c :: cs := Nat.toList_repr.trans hcs
    rw [List.forall_mem_cons] at digits
    unfold isPosition
    rw [htext]
    simp [hc, digits.1, List.all_eq_true.2 digits.2]

theorem isPosition_iff_toString {s : String} : isPosition s = true ↔ ∃ n : Nat, s = toString n := by
  constructor
  · rw [isPosition_iff]
    rintro (rfl | ⟨c, cs, hs, hc, hcs⟩)
    · exact ⟨0, rfl⟩
    · refine ⟨Nat.ofDigitChars 10 (c :: cs) 0, String.toList_inj.1 ?_⟩
      rw [hs]
      exact (Nat.toList_repr.trans (toDigits_ofDigitChars hc hcs)).symm
  · rintro ⟨n, rfl⟩
    exact isPosition_toString n

end NodeIdGen.Schema
