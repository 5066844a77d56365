import NodeIdGen.Proofs.Schema.Positions
import NodeIdGen.Proofs.Syntax.Lexing

/-!
# The spelling of an identifier

An identifier is defined by the lexer: its text is read as one word, and that word is spelled like
the text. Here it is described by its characters. The lexer skips blanks and comments and knows the
marks of literals, but all of these have characters that no word has, so that nothing is left of
them in a text that is read as a word of the same spelling.
-/

namespace NodeIdGen.Syntax

open NodeIdGen.Text

/-! ## Characters -/

/-- Each of the ranges lies within one of the others. Both lists are ascending, so they are gone
through side by side: each of the others uses up what lies within it. -/
def rangesWithin (rs : Ranges) : Ranges → Bool
  | [] => rs.isEmpty
  | q :: qs => rangesWithin (rs.dropWhile fun r => q.1.ble r.1 && r.2.ble q.2) qs

theorem holds_of_rangesWithin {rs qs : Ranges} {n : Nat} (h : rangesWithin rs qs = true)
    (hn : rs.holds n = true) : qs.holds n = true := by
  induction qs generalizing rs with
  | nil =>
      rw [rangesWithin, List.isEmpty_iff] at h
      rw [h] at hn
      cases hn
  | cons q qs ih =>
      obtain ⟨r, hr, hlo, hhi⟩ := Ranges.holds_iff.1 hn
      rw [← List.takeWhile_append_dropWhile (p := fun r => q.1.ble r.1 && r.2.ble q.2) (l := rs),
        List.mem_append] at hr
      rcases hr with hr | hr
      · have within := List.all_eq_true.1 List.all_takeWhile r hr
        rw [Bool.and_eq_true, Nat.ble_eq, Nat.ble_eq] at within
        refine Ranges.holds_iff.2 ⟨q, List.mem_cons_self, ?_, ?_⟩ <;> omega
      · have left := ih h (Ranges.holds_iff.2 ⟨r, hr, hlo, hhi⟩)
        obtain ⟨p, hp, hplo, hphi⟩ := Ranges.holds_iff.1 left
        exact Ranges.holds_iff.2 ⟨p, List.mem_cons_of_mem q hp, hplo, hphi⟩

theorem startRanges_within :
    rangesWithin identifierStartRanges identifierContinueRanges = true := by
  decide +kernel

theorem isIdentContinue_of_isIdentStart {c : Char} (h : isIdentStart c = true) :
    isIdentContinue c = true := by
  unfold isIdentStart at h
  unfold isIdentContinue Char.isAlphanum
  simp only [Bool.or_eq_true, Bool.and_eq_true, decide_eq_true_eq] at h ⊢
  rcases h with (underscore | letter) | ⟨wide, hr⟩
  · exact .inl (.inl underscore)
  · exact .inl (.inr (.inl letter))
  · exact .inr ⟨wide, holds_of_rangesWithin startRanges_within hr⟩

/-- The characters besides blanks that mean something outside of words: brackets, quotes,
punctuation and the byte-order mark. -/
def markChars : List Char :=
  ['\ufeff', '"', '\\', '(', ')', '[', ']', '\x7b', '\x7d'] ++ symbolChars

/-- The character separates words, or means something outside of them. -/
def isMark (c : Char) : Bool :=
  isGap c || markChars.contains c

theorem isMark_eq_false {c : Char} (h : isIdentContinue c = true) : isMark c = false := by
  have gaps : ∀ n ∈ gapPoints, isIdentContinue (Char.ofNat n) = false := by decide +kernel
  have marks : markChars.any isIdentContinue = false := by decide +kernel
  unfold isMark
  rw [Bool.or_eq_false_iff]
  constructor
  · refine Bool.eq_false_iff.2 fun hg => ?_
    have := gaps _ (toNat_mem_gapPoints hg)
    rw [Char.ofNat_toNat, h] at this
    cases this
  · refine Bool.eq_false_iff.2 fun hm => ?_
    exact List.any_eq_false.1 marks c (List.contains_iff_mem.1 hm) h

/-! ## Bare words -/

/-- A character that starts a word, then characters that go on with it. -/
def IsBare (w : List Char) : Prop :=
  ∃ c cs, w = c :: cs ∧ isIdentStart c = true ∧ ∀ d ∈ cs, isIdentContinue d = true

namespace IsBare

variable {w : List Char}

theorem forall_mem (h : IsBare w) : ∀ c ∈ w, isIdentContinue c = true := by
  obtain ⟨c, cs, rfl, hc, hcs⟩ := h
  exact List.forall_mem_cons.2 ⟨isIdentContinue_of_isIdentStart hc, hcs⟩

theorem leadingWord? (h : IsBare w) : leadingWord? w = some (w, []) := by
  obtain ⟨c, cs, rfl, hc, hcs⟩ := h
  have take := @List.takeWhile_append_of_pos _ _ cs [] hcs
  have drop := @List.dropWhile_append_of_pos _ _ cs [] hcs
  rw [List.append_nil, List.takeWhile_nil, List.append_nil] at take
  rw [List.append_nil, List.dropWhile_nil] at drop
  simp only [Syntax.leadingWord?, hc, if_true, take, drop]

theorem spelledWord? (h : IsBare w) : spelledWord? w = some (String.ofList w, []) := by
  have front : Syntax.leadingWord? (w ++ []) = some (w, []) := by
    rw [List.append_nil]
    exact h.leadingWord?
  have spelled := spelledWord?_of_leadingWord? front rfl
  rwa [List.append_nil] at spelled

/-- The marks of literals have characters that no word has. -/
theorem not_atMark (h : IsBare w) : atMark w = false := by
  have foreign : literalMarks.any (·.all isIdentContinue) = false := by decide
  refine List.any_eq_false.2 fun m hm hp => ?_
  refine List.any_eq_false.1 foreign m hm (List.all_eq_true.2 fun c hc => ?_)
  exact h.forall_mem c ((List.isPrefixOf_iff_prefix.1 hp).subset hc)

/-- Behind `r#` a word does not make the mark of a raw literal. -/
theorem not_atMark_raw (h : IsBare w) : atMark ('r' :: '#' :: w) = false := by
  obtain ⟨c, cs, rfl, hc, -⟩ := h
  have quote : c ≠ '"' := by rintro rfl; cases hc
  have hash : c ≠ '#' := by rintro rfl; cases hc
  simp [atMark, literalMarks, List.isPrefixOf, quote.symm, hash.symm]

end IsBare

/-! ## Words -/

/-- A word that is cut off a text is bare, or bare behind `r#` and none of those that `r#` does not
make a name. -/
theorem bare_or_raw_of_spelledWord? {cs rest : List Char} {n : String}
    (h : spelledWord? cs = some (n, rest)) :
    IsBare n.toList ∨ ∃ w, n = "r#" ++ w ∧ IsBare w.toList ∧ w ∉ rawReservedWords := by
  unfold spelledWord? at h
  split at h
  · next cs =>
    cases hw : Syntax.leadingWord? cs with
    | none =>
        rw [hw] at h
        cases h
    | some found =>
        obtain ⟨w, rest'⟩ := found
        rw [hw] at h
        dsimp only at h
        split at h
        · cases h
        · next hraw =>
          cases h
          refine .inr ⟨String.ofList w, ?_, ?_, ?_⟩
          · rw [← String.toList_inj]
            simp
          · rw [String.toList_ofList]
            exact mem_word hw
          · intro hmem
            exact hraw (List.contains_iff_mem.2 hmem)
  · obtain ⟨⟨w, rest'⟩, hw, he⟩ := Option.map_eq_some_iff.1 h
    cases he
    rw [String.toList_ofList]
    exact .inl (mem_word hw)

/-- The words are the bare ones, and those behind `r#` that it makes names. -/
theorem isWord_iff {s : String} : IsWord s ↔
    IsBare s.toList ∨ ∃ w, s = "r#" ++ w ∧ IsBare w.toList ∧ w ∉ rawReservedWords := by
  constructor
  · intro h
    unfold IsWord ident? at h
    split at h
    · cases h
    · exact bare_or_raw_of_spelledWord? h
  · rintro (h | ⟨w, rfl, h, hraw⟩)
    · show (if atMark s.toList then none else spelledWord? s.toList) = some (s, [])
      rw [h.not_atMark, h.spelledWord?, String.ofList_toList]
      rfl
    · have chars : ("r#" ++ w).toList = 'r' :: '#' :: w.toList := by simp
      show (if atMark ("r#" ++ w).toList then none else spelledWord? ("r#" ++ w).toList) = _
      rw [chars, h.not_atMark_raw]
      simp only [spelledWord?, h.leadingWord?, String.ofList_toList]
      rw [if_neg Bool.false_ne_true, if_neg (mt List.contains_iff_mem.1 hraw), ← chars,
        String.ofList_toList]

/-! ## Identifiers -/

/-- The spellings of a name: a bare word that is not reserved, or behind `r#` one that is not
reserved even there. -/
inductive SpellsName : String → Prop
  | bare {w : String} (word : IsBare w.toList) (free : w ∉ reservedWords) : SpellsName w
  | raw {w : String} (word : IsBare w.toList) (free : w ∉ rawReservedWords) :
      SpellsName ("r#" ++ w)

/-- No reserved word has the character of the mark `r#`. -/
theorem raw_not_mem_reservedWords (w : String) : "r#" ++ w ∉ reservedWords := by
  have unmarked : ∀ v ∈ reservedWords, '#' ∉ v.toList := by decide
  intro h
  exact unmarked _ h (by simp)

theorem isIdentifier_iff_spellsName {s : String} : isIdentifier s = true ↔ SpellsName s := by
  rw [isIdentifier_iff, isWord_iff]
  have reserved (v : String) : isReserved v = false ↔ v ∉ reservedWords := by simp [isReserved]
  rw [reserved]
  constructor
  · rintro ⟨hbare | ⟨w, rfl, hbare, hraw⟩, hfree⟩
    · exact .bare hbare hfree
    · exact .raw hbare hraw
  · rintro (⟨hbare, hfree⟩ | ⟨hbare, hfree⟩)
    · exact ⟨.inl hbare, hfree⟩
    · exact ⟨.inr ⟨_, rfl, hbare, hfree⟩, raw_not_mem_reservedWords _⟩

/-- Apart from the `#` of its mark, a name has only characters that go on with a word. -/
theorem SpellsName.chars {s : String} (h : SpellsName s) {before after : List Char} {c : Char}
    (hs : s.toList = before ++ c :: after) :
    isIdentContinue c = true ∨ before = ['r'] ∧ c = '#' := by
  cases h with
  | bare word _ => exact .inl (word.forall_mem c (by simp [hs]))
  | @raw w word _ =>
      have chars : 'r' :: '#' :: w.toList = before ++ c :: after := by rw [← hs]; simp
      match before, chars with
      | [], chars =>
          cases chars
          exact .inl (by decide)
      | [r], chars =>
          cases chars
          exact .inr ⟨rfl, rfl⟩
      | _ :: _ :: before, chars =>
          have hw := (List.cons.inj (List.cons.inj chars).2).2
          exact .inl (word.forall_mem c (by simp [hw]))

/-- One step of the lexer reads a name as a whole, and no more, and leaves the open groups as they
are. -/
theorem step?_of_isIdentifier {s : String} (h : isIdentifier s = true) {tail rest : List Char}
    (ht : stops tail = true) (f : Frames) {c : Char} (hs : s.toList ++ tail = c :: rest) :
    step? f c rest = some (f.push (.ident s), tail) := by
  have hid := (isIdentifier_iff.1 h).1.ident? ht
  rw [hs] at hid
  exact step?_of_ident? hid

/-- An identifier starts with a letter or an underscore, a position with a digit. -/
theorem isPosition_of_isIdentifier {s : String} (h : isIdentifier s = true) :
    Schema.isPosition s = false := by
  refine Bool.eq_false_iff.2 fun hp => ?_
  obtain ⟨c, cs, hs, hc⟩ := exists_of_ident? (isIdentifier_iff.1 h).1
  obtain ⟨d, ds, hs', hd⟩ := Schema.exists_of_isPosition hp
  rw [hs] at hs'
  cases hs'
  rw [isDigit_eq_false hc] at hd
  cases hd

end NodeIdGen.Syntax
