import Mathlib.Data.Option.Basic
import NodeIdGen.Proofs.Syntax.Words

/-!
# Words in a text

The lexer cuts a word off the front of a text, and what it cuts is a word also when it stands alone:
a word may be moved to another place, as long as nothing follows that would go on with it. So the
words among the tokens of a text are words, and an identifier is exactly a word that is not
reserved.
-/

namespace NodeIdGen.Syntax

open NodeIdGen.Text

/-! ## Characters -/

/-- A character that goes on with a word, or turns it into the mark of a literal. -/
def goesOn (c : Char) : Bool :=
  isIdentContinue c || c == '#' || c == '"' || c == '\''

/-- Nothing stands in front that goes on with a word before it. -/
def stops (cs : List Char) : Bool :=
  !cs.head?.any goesOn

/-- The code points of white space between tokens. -/
def gapPoints : List Nat :=
  [0x9, 0xa, 0xb, 0xc, 0xd, 0x20, 0x85, 0xa0, 0x1680, 0x2000, 0x2001, 0x2002, 0x2003, 0x2004,
   0x2005, 0x2006, 0x2007, 0x2008, 0x2009, 0x200a, 0x200e, 0x200f, 0x2028, 0x2029, 0x202f, 0x205f,
   0x3000]

theorem toNat_mem_gapPoints {c : Char} (h : isGap c = true) : c.toNat ∈ gapPoints := by
  have point : ∀ d : Char, c = d → c.toNat = d.toNat := fun d hd => hd ▸ rfl
  simp only [isGap, isBlank, Bool.or_eq_true, Bool.and_eq_true, decide_eq_true_eq,
    beq_iff_eq] at h
  simp only [gapPoints, List.mem_cons, List.not_mem_nil, or_false]
  rcases h with (h | h) | h
  · omega
  · have := point _ h; simp_all
  · have := point _ h; simp_all

theorem isIdentStart_ofNat_gapPoints : ∀ n ∈ gapPoints, isIdentStart (Char.ofNat n) = false := by
  decide +kernel

theorem isGap_eq_false {c : Char} (h : isIdentStart c = true) : isGap c = false := by
  refine Bool.eq_false_iff.2 fun hg => ?_
  have := isIdentStart_ofNat_gapPoints _ (toNat_mem_gapPoints hg)
  rw [Char.ofNat_toNat, h] at this
  cases this

theorem isDigit_ofNat_gapPoints : ∀ n ∈ gapPoints, (Char.ofNat n).isDigit = false := by
  decide

theorem isGap_eq_false_of_isDigit {c : Char} (h : c.isDigit = true) : isGap c = false := by
  refine Bool.eq_false_iff.2 fun hg => ?_
  have := isDigit_ofNat_gapPoints _ (toNat_mem_gapPoints hg)
  rw [Char.ofNat_toNat, h] at this
  cases this

theorem not_isIdentContinue_of_stops {cs : List Char} (h : stops cs = true) :
    cs.takeWhile isIdentContinue = [] ∧ cs.dropWhile isIdentContinue = cs := by
  cases cs with
  | nil => exact ⟨rfl, rfl⟩
  | cons c cs =>
      have hc : isIdentContinue c = false := by
        simp [stops, goesOn] at h
        exact h.1.1.1
      exact ⟨List.takeWhile_cons_of_neg (by simp [hc]), List.dropWhile_cons_of_neg (by simp [hc])⟩

/-! ## Words at the front -/

/-- A word that was cut off some text is cut off again in front of any text that stops it. -/
theorem leadingWord?_move {cs w rest tail : List Char} (h : leadingWord? cs = some (w, rest))
    (ht : stops tail = true) : leadingWord? (w ++ tail) = some (w, tail) := by
  obtain ⟨c, v, rfl, hc, hv⟩ := mem_word h
  obtain ⟨htake, hdrop⟩ := not_isIdentContinue_of_stops ht
  simp only [List.cons_append, leadingWord?, hc, if_true]
  rw [List.takeWhile_append_of_pos hv, List.dropWhile_append_of_pos hv, htake, hdrop,
    List.append_nil]

/-- The first characters of a word cannot be taken for the mark of another. -/
theorem spelledWord?_of_leadingWord? {w tail : List Char}
    (h : leadingWord? (w ++ tail) = some (w, tail)) (ht : stops tail = true) :
    spelledWord? (w ++ tail) = some (String.ofList w, tail) := by
  unfold spelledWord?
  split
  · next cs hcs =>
    exfalso
    obtain ⟨c, v, rfl, -, hv⟩ := mem_word h
    cases v with
    | nil =>
        cases tail with
        | nil => cases hcs
        | cons d tail => cases hcs; cases ht
    | cons d v =>
        cases hcs
        exact absurd (hv '#' List.mem_cons_self) (by decide)
  · rw [h]
    rfl

theorem spelledWord?_append {cs rest : List Char} {n : String}
    (h : spelledWord? cs = some (n, rest)) : n.toList ++ rest = cs := by
  unfold spelledWord? at h
  split at h
  · split at h
    · next w rest' hw =>
      split at h
      · cases h
      · cases h
        simp [leadingWord?_append hw]
    · cases h
  · obtain ⟨⟨w, rest'⟩, hw, he⟩ := Option.map_eq_some_iff.1 h
    cases he
    simp [leadingWord?_append hw]

theorem spelledWord?_move {cs rest tail : List Char} {n : String}
    (h : spelledWord? cs = some (n, rest)) (ht : stops tail = true) :
    spelledWord? (n.toList ++ tail) = some (n, tail) := by
  unfold spelledWord? at h
  split at h
  · next cs =>
    split at h
    · next w rest' hw =>
      split at h
      · cases h
      · next hraw =>
        cases h
        simpa [spelledWord?, leadingWord?_move hw ht] using hraw
    · cases h
  · obtain ⟨⟨w, rest'⟩, hw, he⟩ := Option.map_eq_some_iff.1 h
    cases he
    rw [String.toList_ofList]
    exact spelledWord?_of_leadingWord? (leadingWord?_move hw ht) ht

/-- The characters of the marks would go on with a word before them. -/
theorem goesOn_of_mem_literalMarks : ∀ m ∈ literalMarks, ∀ c ∈ m, goesOn c = true := by
  have all : literalMarks.all (·.all goesOn) = true := by decide
  intro m hm
  exact List.all_eq_true.1 (List.all_eq_true.1 all m hm)

theorem literalMarks_move {w rest tail : List Char} (hw : w <+: rest)
    (h : literalMarks.any (·.isPrefixOf rest) = false) (ht : stops tail = true) :
    literalMarks.any (·.isPrefixOf (w ++ tail)) = false := by
  rw [List.any_eq_false] at h ⊢
  intro m hm hp
  have hp := List.isPrefixOf_iff_prefix.1 hp
  rcases List.prefix_or_prefix_of_prefix hp (List.prefix_append w tail) with hmw | hwm
  · exact h m hm (List.isPrefixOf_iff_prefix.2 (hmw.trans hw))
  · obtain ⟨v, rfl⟩ := hwm
    have hv : v <+: tail := (List.prefix_append_right_inj w).1 hp
    cases v with
    | nil =>
        rw [List.append_nil] at hm
        exact h w hm (List.isPrefixOf_iff_prefix.2 hw)
    | cons d v =>
        obtain ⟨tail, rfl⟩ := hv
        have := goesOn_of_mem_literalMarks _ hm d (by simp)
        simp [stops, this] at ht

/-- What `ident?` cuts off, it cuts off again in front of any text that stops it. -/
theorem ident?_move {cs rest tail : List Char} {n : String} (h : ident? cs = some (n, rest))
    (ht : stops tail = true) : ident? (n.toList ++ tail) = some (n, tail) := by
  unfold ident? at h ⊢
  split at h
  · cases h
  · next hmarks =>
    have hprefix : n.toList <+: cs := ⟨rest, spelledWord?_append h⟩
    rw [literalMarks_move hprefix (Bool.eq_false_iff.2 hmarks) ht]
    exact spelledWord?_move h ht

/-- The text is a word as a whole. -/
def IsWord (n : String) : Prop :=
  ident? n.toList = some (n, [])

theorem isWord_of_ident? {cs rest : List Char} {n : String} (h : ident? cs = some (n, rest)) :
    IsWord n := by
  have := ident?_move h (show stops [] = true from rfl)
  rwa [List.append_nil] at this

theorem IsWord.ident? {n : String} {tail : List Char} (h : IsWord n) (ht : stops tail = true) :
    ident? (n.toList ++ tail) = some (n, tail) :=
  ident?_move h ht

theorem mem_of_leadingWord? {cs w rest : List Char} (h : leadingWord? cs = some (w, rest)) :
    ∀ c ∈ w, isIdentStart c = true ∨ goesOn c = true := by
  obtain ⟨c, v, rfl, hc, hv⟩ := mem_word h
  refine List.forall_mem_cons.2 ⟨.inl hc, fun d hd => .inr ?_⟩
  simp [goesOn, hv d hd]

theorem mem_of_isWord {n : String} (h : IsWord n) :
    ∀ c ∈ n.toList, isIdentStart c = true ∨ goesOn c = true := by
  unfold IsWord ident? at h
  split at h
  · cases h
  · unfold spelledWord? at h
    split at h
    · split at h
      · next w rest hw =>
        split at h
        · cases h
        · simp only [Option.some.injEq, Prod.mk.injEq] at h
          rw [← h.1, String.toList_ofList]
          refine List.forall_mem_cons.2 ⟨.inl (by decide), ?_⟩
          exact List.forall_mem_cons.2 ⟨.inr (by decide), mem_of_leadingWord? hw⟩
      · cases h
    · obtain ⟨⟨w, rest⟩, hw, he⟩ := Option.map_eq_some_iff.1 h
      simp only [Prod.mk.injEq] at he
      rw [← he.1, String.toList_ofList]
      exact mem_of_leadingWord? hw

/-! ## A word is no other leaf -/

theorem exists_of_ident? {cs rest : List Char} {n : String} (h : ident? cs = some (n, rest)) :
    ∃ c tail, cs = c :: tail ∧ isIdentStart c = true := by
  unfold ident? at h
  split at h
  · cases h
  · unfold spelledWord? at h
    split at h
    · exact ⟨'r', _, rfl, by decide⟩
    · obtain ⟨⟨w, rest'⟩, hw, -⟩ := Option.map_eq_some_iff.1 h
      obtain ⟨c, v, rfl, hc, -⟩ := mem_word hw
      exact ⟨c, v ++ rest', (leadingWord?_append hw).symm, hc⟩

theorem raw?_front {q : Quoting} {cs rest : List Char} (h : q.raw? cs = some rest) :
    ∃ k tail, cs = List.replicate k '#' ++ '"' :: tail := by
  unfold Quoting.raw? at h
  split at h
  · next tail hcs =>
    refine ⟨(cs.takeWhile (· = '#')).length, tail, ?_⟩
    have hashes : cs.takeWhile (· = '#') = List.replicate _ '#' :=
      List.eq_replicate_of_mem fun c hc => by
        simpa using List.all_eq_true.1 List.all_takeWhile c hc
    rw [← hashes, ← hcs, List.takeWhile_append_dropWhile]
  · cases h

theorem quotedLiteral?_front {q : Quoting} {cs rest : List Char}
    (h : quotedLiteral? q cs = some rest) :
    (∃ tail, cs = '"' :: tail) ∨ ∃ k tail, cs = 'r' :: (List.replicate k '#' ++ '"' :: tail) := by
  unfold quotedLiteral? at h
  split at h
  · exact .inl ⟨_, rfl⟩
  · next cs =>
    obtain ⟨_, h, -⟩ := Option.map_eq_some_iff.1 h
    obtain ⟨k, tail, rfl⟩ := raw?_front h
    exact .inr ⟨k, tail, rfl⟩
  · cases h

/-- Some mark of a literal stands in front. -/
def atMark (cs : List Char) : Bool :=
  literalMarks.any (·.isPrefixOf cs)

theorem quotedLiteral?_eq_none {q : Quoting} {c : Char} {cs : List Char}
    (hc : c = 'b' ∨ c = 'c') (h : atMark (c :: cs) = false) : quotedLiteral? q cs = none := by
  refine Option.eq_none_iff_forall_ne_some.2 fun rest hq => Bool.eq_false_iff.1 h ?_
  rcases quotedLiteral?_front hq with ⟨tail, rfl⟩ | ⟨k, tail, rfl⟩
  · rcases hc with rfl | rfl <;> rfl
  · rcases hc with rfl | rfl <;> cases k <;> rfl

theorem text_quotedLiteral?_eq_none {c : Char} {cs : List Char} (hc : isIdentStart c = true)
    (h : atMark (c :: cs) = false) : quotedLiteral? .text (c :: cs) = none := by
  refine Option.eq_none_iff_forall_ne_some.2 fun rest hq => Bool.eq_false_iff.1 h ?_
  rcases quotedLiteral?_front hq with ⟨tail, he⟩ | ⟨k, tail, he⟩
  · cases he
    cases hc
  · cases he
    match k with
    | 0 => rfl
    | 1 => rfl
    | k + 2 => rfl

theorem isDigit_eq_false {c : Char} (h : isIdentStart c = true) : c.isDigit = false := by
  refine Bool.eq_false_iff.2 fun hd => ?_
  have hlt : c.toNat < 0x80 :=
    Nat.lt_of_le_of_lt (Char.isDigit_iff_toNat.1 hd).2 (by decide)
  have : ∀ n < 0x80, (Char.ofNat n).isDigit = true → isIdentStart (Char.ofNat n) = false := by
    decide +kernel
  have := this _ hlt
  rw [Char.ofNat_toNat, h] at this
  cases this hd

theorem integer?_eq_none {c : Char} {cs : List Char} (hc : isIdentStart c = true) :
    integer? (c :: cs) = none := by
  have base : numberBase (c :: cs) = (10, c :: cs) := by
    unfold numberBase
    split
    · next h => cases h; cases hc
    · next h => cases h; cases hc
    · next h => cases h; cases hc
    · rfl
  have first : ((c :: cs).takeWhile (isNumberPart 10)).head?.any Char.isDigit = false := by
    by_cases hpart : isNumberPart 10 c = true
    · rw [List.takeWhile_cons_of_pos hpart]
      exact isDigit_eq_false hc
    · rw [List.takeWhile_cons_of_neg hpart]
      rfl
  simp [integer?, base, first]

theorem literal?_eq_none {c : Char} {cs : List Char} (hc : isIdentStart c = true)
    (h : atMark (c :: cs) = false) : literal? (c :: cs) = none := by
  have float : float? (c :: cs) = none := by simp [float?, isDigit_eq_false hc]
  unfold literal?
  rw [float, integer?_eq_none hc]
  split
  · next he => cases he; cases h
  · next he => cases he; rw [quotedLiteral?_eq_none (.inl rfl) h]; rfl
  · next he => cases he; rw [quotedLiteral?_eq_none (.inr rfl) h]; rfl
  · next he => cases he; cases hc
  · rw [text_quotedLiteral?_eq_none hc h]; rfl

theorem atSymbolChar_eq_false {c : Char} {cs : List Char} (hc : isIdentStart c = true) :
    atSymbolChar (c :: cs) = false := by
  have none : symbolChars.any isIdentStart = false := by decide
  unfold atSymbolChar
  split
  · rfl
  · rfl
  · next he =>
    cases he
    refine Bool.eq_false_iff.2 fun hm => ?_
    exact List.any_eq_false.1 none c (List.contains_iff_mem.1 hm) hc
  · rfl

theorem leaf?_of_ident? {cs rest : List Char} {n : String} (h : ident? cs = some (n, rest)) :
    leaf? cs = some (.ident n, rest) := by
  obtain ⟨c, tail, rfl, hc⟩ := exists_of_ident? h
  have hmark : atMark (c :: tail) = false := by
    unfold ident? at h
    split at h
    · cases h
    · next hm => exact Bool.eq_false_iff.2 hm
  simp [leaf?, literal?_eq_none hc hmark, punct?, atSymbolChar_eq_false hc, h]

theorem comment?_eq_none {c : Char} {cs : List Char} (hc : c ≠ '/') :
    comment? (c :: cs) = none := by
  simp [comment?, hc]

theorem docComment?_eq_none {c : Char} {cs : List Char} (hc : c ≠ '/') :
    docComment? (c :: cs) = none := by
  simp [docComment?, hc]

/-- A step at a character that starts neither a gap nor a comment nor a bracket reads a leaf. -/
theorem step?_of_leaf {f : Frames} {c : Char} {cs : List Char} (hgap : isGap c = false)
    (hc : c ∉ ['/', '(', ')', '[', ']', '\x7b', '\x7d']) :
    step? f c cs = (leaf? (c :: cs)).map fun t => (f.push t.1, t.2) := by
  simp only [List.mem_cons, List.not_mem_nil, or_false, not_or] at hc
  obtain ⟨slash, left, right, left', right', left'', right''⟩ := hc
  have gap : gap? (c :: cs) = none := by
    simp [gap?, hgap, comment?_eq_none slash]
  have placeholder : placeholderText.isPrefixOf (c :: cs) = false := by
    simp [placeholderText, List.isPrefixOf, Ne.symm left]
  have opening : opening? c = none := by
    unfold opening?
    split <;> simp_all
  have closing : closing? c = none := by
    unfold closing?
    split <;> simp_all
  unfold step?
  rw [opening, closing]
  dsimp only
  rw [gap]
  dsimp only
  rw [docComment?_eq_none slash]
  dsimp only
  rw [placeholder]
  rfl

theorem step?_of_ident? {f : Frames} {c : Char} {cs rest : List Char} {n : String}
    (h : ident? (c :: cs) = some (n, rest)) : step? f c cs = some (f.push (.ident n), rest) := by
  obtain ⟨d, tail, he, hc⟩ := exists_of_ident? h
  cases he
  have special : ['/', '(', ')', '[', ']', '\x7b', '\x7d'].any isIdentStart = false := by decide
  rw [step?_of_leaf (isGap_eq_false hc) fun hm => ?_, leaf?_of_ident? h]
  · rfl
  · exact List.any_eq_false.1 special c hm hc

/-! ## Steps to the end of a text -/

theorem scan?_succ (n : Nat) (f : Frames) (c : Char) (cs : List Char) :
    scan? (n + 1) f (c :: cs) = match step? f c cs with
      | some (f, rest) => scan? n f rest
      | none => none := by
  exact rfl

theorem scan?_cons (n : Nat) (f : Frames) (c : Char) (cs : List Char) :
    scan? (n + 1) f (c :: cs) = (step? f c cs).bind fun s => scan? n s.1 s.2 := by
  rw [scan?_succ]
  cases step? f c cs <;> rfl

theorem scan?_nil (n : Nat) (f : Frames) : scan? n f [] = f.finish? := by
  cases n <;> rfl

/-! ## The words among the tokens of a text -/

theorem words_of_tick? {cs rest : List Char} {t : Token} (h : tick? cs = some (t, rest)) :
    t.words = [] := by
  unfold tick? at h
  split at h
  · cases h
  · generalize ident? cs = found at h
    simp only [ite_eq_iff, reduceCtorEq, and_false, false_or] at h
    obtain ⟨-, h⟩ := h
    cases found <;> cases h <;> rfl

theorem words_of_punct? {cs rest : List Char} {t : Token} (h : punct? cs = some (t, rest)) :
    t.words = [] := by
  unfold punct? at h
  split at h
  · cases h
  · split at h
    · split at h
      · exact words_of_tick? h
      · cases h; rfl
    · cases h

theorem isWord_of_leaf? {cs rest : List Char} {t : Token} (h : leaf? cs = some (t, rest)) :
    ∀ w ∈ t.words, IsWord w := by
  unfold leaf? at h
  rw [Option.orElse_eq_some] at h
  rcases h with h | ⟨-, h⟩
  · obtain ⟨l, -, he⟩ := Option.map_eq_some_iff.1 h
    cases he
    intro w hw
    cases hw
  · rw [Option.orElse_eq_some] at h
    rcases h with h | ⟨-, h⟩
    · rw [words_of_punct? h]
      intro w hw
      cases hw
    · obtain ⟨⟨n, rest'⟩, hn, he⟩ := Option.map_eq_some_iff.1 h
      cases he
      intro w hw
      rw [List.mem_singleton.1 hw]
      exact isWord_of_ident? hn

theorem isWord_of_docTokens (inner : Bool) : WordsAll IsWord (docTokens inner) := by
  have doc : wordsOf (docTokens inner) = ["doc"] := by cases inner <;> rfl
  intro w hw
  rw [doc] at hw
  rw [List.mem_singleton.1 hw]
  exact (by decide : ident? ['d', 'o', 'c'] = some ("doc", []))

/-- All words read so far are words. -/
structure Frames.AreWords (f : Frames) : Prop where
  done : WordsAll IsWord f.done
  outer : ∀ o ∈ f.outer, WordsAll IsWord o.2

namespace Frames.AreWords

variable {f g : Frames}

theorem push {t : Token} (hf : f.AreWords) (ht : ∀ w ∈ t.words, IsWord w) :
    (f.push t).AreWords :=
  ⟨WordsAll.cons ht hf.done, hf.outer⟩

theorem openGroup (hf : f.AreWords) (d : Delimiter) : (f.openGroup d).AreWords :=
  ⟨WordsAll.nil, List.forall_mem_cons.2 ⟨hf.done, hf.outer⟩⟩

theorem closeGroup? {d : Delimiter} (hf : f.AreWords) (h : f.closeGroup? d = some g) :
    g.AreWords := by
  unfold Frames.closeGroup? at h
  split at h
  · next o before outer ho =>
    have houter := hf.outer
    rw [ho, List.forall_mem_cons] at houter
    split at h
    · cases h
      exact ⟨WordsAll.cons hf.done.reverse houter.1, houter.2⟩
    · cases h
  · cases h

/-- One step reads a word, or none. -/
theorem step {c : Char} {cs rest : List Char} (hf : f.AreWords)
    (h : step? f c cs = some (g, rest)) : g.AreWords := by
  unfold step? at h
  dsimp only at h
  generalize gap? (c :: cs) = gap at h
  cases gap with
  | some rest' => cases h; exact hf
  | none =>
      dsimp only at h
      generalize docComment? (c :: cs) = doc at h
      cases doc with
      | some d =>
          cases h
          exact ⟨(isWord_of_docTokens d.1).append hf.done, hf.outer⟩
      | none =>
          dsimp only at h
          split at h
          · cases h
            exact hf.push fun w hw => nomatch hw
          · split at h
            · cases h
              exact hf.openGroup _
            · obtain ⟨g', hg, he⟩ := Option.map_eq_some_iff.1 h
              cases he
              exact hf.closeGroup? hg
            · obtain ⟨⟨t, rest'⟩, ht, he⟩ := Option.map_eq_some_iff.1 h
              cases he
              exact hf.push (isWord_of_leaf? ht)

theorem finish {ts : List Token} (hf : f.AreWords) (h : f.finish? = some ts) :
    WordsAll IsWord ts := by
  unfold Frames.finish? at h
  split at h
  · cases h
    exact hf.done.reverse
  · cases h

theorem scan {n : Nat} {cs : List Char} {ts : List Token}
    (hf : f.AreWords) (h : scan? n f cs = some ts) : WordsAll IsWord ts := by
  induction n generalizing f cs with
  | zero =>
      cases cs with
      | nil => exact hf.finish (scan?_nil 0 f ▸ h)
      | cons c cs => cases h
  | succ n ih =>
      cases cs with
      | nil => exact hf.finish (scan?_nil (n + 1) f ▸ h)
      | cons c cs =>
          rw [scan?_cons] at h
          obtain ⟨s, hstep, h⟩ := Option.bind_eq_some_iff.1 h
          exact ih (hf.step hstep) h

end Frames.AreWords

/-- Whatever words a text has, each of them is a word also when it stands alone. -/
theorem isWord_of_lex {cs : List Char} {ts : List Token} (h : lex cs = some ts) :
    WordsAll IsWord ts := by
  refine Frames.AreWords.scan ⟨?_, ?_⟩ h <;> intro _ hw <;> cases hw

/-! ## Identifiers -/

theorem dropByteOrderMark_of_ident? {cs rest : List Char} {n : String}
    (h : ident? cs = some (n, rest)) : dropByteOrderMark cs = cs := by
  obtain ⟨c, tail, rfl, hc⟩ := exists_of_ident? h
  unfold dropByteOrderMark
  split
  · next he =>
    cases he
    exact absurd hc (by decide +kernel)
  · rfl

theorem lex_of_isWord {n : String} (h : IsWord n) : lex n.toList = some [.ident n] := by
  unfold lex
  rw [dropByteOrderMark_of_ident? h]
  obtain ⟨c, tail, hcs, -⟩ := exists_of_ident? h
  have hstep := h
  unfold IsWord at hstep
  rw [hcs] at hstep ⊢
  dsimp only
  rw [List.length_cons, scan?_cons, step?_of_ident? hstep, Option.bind_some, scan?_nil]
  rfl

theorem isIdentifier_iff {n : String} :
    isIdentifier n = true ↔ IsWord n ∧ isReserved n = false := by
  unfold isIdentifier
  constructor
  · intro h
    split at h
    · next m hlex =>
      simp only [Bool.and_eq_true, decide_eq_true_eq, Bool.not_eq_eq_eq_not, Bool.not_true] at h
      obtain ⟨rfl, h⟩ := h
      exact ⟨(isWord_of_lex hlex).head, h⟩
    · cases h
  · rintro ⟨hw, hr⟩
    rw [lex_of_isWord hw]
    simp [hr]

end NodeIdGen.Syntax
