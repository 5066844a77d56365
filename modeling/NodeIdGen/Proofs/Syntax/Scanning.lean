import NodeIdGen.Proofs.Schema.Positions
import NodeIdGen.Proofs.Syntax.Lexing
import NodeIdGen.Proofs.Text.Lines

/-!
# Steps through a text

The lexer takes steps from one place in a text to the next, and a part of a text is read by the
steps through it, whatever follows. Those through a fixed text are known. The others are here: a
word, a whole number, and a comment up to the end of its line. `Spells` is about a part by itself,
and puts longer parts together from shorter ones.
-/

namespace NodeIdGen.Syntax

/-- Some steps, no more than there are characters, lead from one place in the middle of a text to
another. -/
def Scans (f : Frames) (cs : List Char) (g : Frames) (rest : List Char) : Prop :=
  ∃ k, k + rest.length ≤ cs.length ∧ ∀ n, scan? (n + k) f cs = scan? n g rest

variable {f g h : Frames} {c : Char} {cs us rest : List Char} {n : String}

namespace Scans

theorem trans (hf : Scans f cs g us) (hg : Scans g us h rest) : Scans f cs h rest := by
  obtain ⟨k, hk, hf⟩ := hf
  obtain ⟨l, hl, hg⟩ := hg
  refine ⟨l + k, by omega, fun n => ?_⟩
  rw [← Nat.add_assoc, hf, hg]

theorem refl : Scans f cs f cs :=
  ⟨0, Nat.le_of_eq (Nat.zero_add _), fun _ => rfl⟩

theorem step (hs : step? f c cs = some (g, rest)) (hlen : rest.length ≤ cs.length) :
    Scans f (c :: cs) g rest := by
  refine ⟨1, ?_, fun n => ?_⟩
  · simp only [List.length_cons]
    omega
  · rw [scan?_cons, hs]
    rfl

/-- A fixed text, of which each step is known. -/
theorem fixed {text : List Char} {k : Nat} (hk : k ≤ text.length)
    (h : ∀ n, scan? (n + k) f (text ++ rest) = scan? n g rest) : Scans f (text ++ rest) g rest :=
  ⟨k, by rw [List.length_append]; omega, h⟩

/-- Steps to the end of a text read all of it. -/
theorem lex_eq (hs : Scans .start cs g []) (hmark : dropByteOrderMark cs = cs) :
    lex cs = g.finish? := by
  obtain ⟨k, hk, hs⟩ := hs
  obtain ⟨n, hn⟩ := Nat.exists_eq_add_of_le' (by simpa using hk : k ≤ cs.length)
  unfold lex
  rw [hmark]
  dsimp only
  rw [hn, hs, scan?_nil]

theorem word (hw : IsWord n) (ht : stops rest = true) :
    Scans f (n.toList ++ rest) (f.push (.ident n)) rest := by
  have hid := hw.ident? ht
  obtain ⟨c, tail, hcs, -⟩ := exists_of_ident? hid
  rw [hcs] at hid ⊢
  refine step (step?_of_ident? hid) ?_
  have := congrArg List.length hcs
  obtain ⟨d, v, hd, -⟩ := exists_of_ident? hw
  simp only [hd, List.cons_append, List.length_cons, List.length_append] at this
  omega

/-- A comment that a blank separates from its mark, up to the end of its line. -/
theorem comment {line : List Char} (hl : '\n' ∉ line) :
    Scans f ('/' :: '/' :: ' ' :: (line ++ '\n' :: rest)) f ('\n' :: rest) := by
  have hs : step? f '/' ('/' :: ' ' :: (line ++ '\n' :: rest)) =
      some (f, afterLine (' ' :: (line ++ '\n' :: rest))) := rfl
  have blank : '\n' ∉ ' ' :: line := by simp [hl]
  rw [afterLine, ← List.cons_append, Text.dropWhile_line blank] at hs
  exact step hs (by simp only [List.length_cons, List.length_append]; omega)

end Scans

/-! ## Whole numbers -/

open NodeIdGen.Schema

theorem digitsValue_eq {ds : List Char} (hds : ∀ d ∈ ds, d.isDigit = true) :
    digitsValue 10 ds = Nat.ofDigitChars 10 ds 0 := by
  unfold digitsValue
  generalize 0 = v
  induction ds generalizing v with
  | nil => exact Nat.ofDigitChars_nil.symm
  | cons d ds ih =>
      rw [List.forall_mem_cons] at hds
      rw [List.foldl_cons, (value_of_isDigit hds.1).1, Nat.ofDigitChars_cons]
      exact ih hds.2 _

/-- What digits belong to ends in front of the end of a line. -/
theorem span_digits (rest : List Char) {part : Char → Bool}
    (hpart : ∀ d : Char, d.isDigit = true → part d = true) (hstop : part '\n' = false)
    {ds : List Char} (hds : ∀ d ∈ ds, d.isDigit = true) :
    (ds ++ '\n' :: rest).takeWhile part = ds ∧
      (ds ++ '\n' :: rest).dropWhile part = '\n' :: rest := by
  have all : ∀ d ∈ ds, part d = true := fun d hd => hpart d (hds d hd)
  rw [List.takeWhile_append_of_pos all, List.dropWhile_append_of_pos all,
    List.takeWhile_cons_of_neg (by simp [hstop]), List.dropWhile_cons_of_neg (by simp [hstop])]
  exact ⟨List.append_nil ds, rfl⟩

/-- The digits of a position in front of the end of a line are a whole number. -/
theorem integer?_of_digits {ds : List Char} (hds : ∀ d ∈ ds, d.isDigit = true) (hne : ds ≠ [])
    (hbase : numberBase (ds ++ '\n' :: rest) = (10, ds ++ '\n' :: rest)) :
    integer? (ds ++ '\n' :: rest) = some (.integer (digitsValue 10 ds) "", '\n' :: rest) := by
  have part : ∀ d : Char, d.isDigit = true → isNumberPart 10 d = true := by
    intro d hd
    simp [isNumberPart, isDecimalPart, hd]
  obtain ⟨take, drop⟩ := span_digits rest part (by decide) hds
  have suffix : numberSuffix? ('\n' :: rest) = some ("", '\n' :: rest) := rfl
  obtain ⟨d, ds, rfl⟩ := List.exists_cons_of_ne_nil hne
  have first : d.isDigit = true := hds d List.mem_cons_self
  have notBlank : d ≠ '_' := by
    rintro rfl
    exact absurd first (by decide)
  unfold integer?
  rw [hbase]
  dsimp only
  rw [take, drop, suffix, if_pos]
  rw [Bool.and_eq_true, Bool.and_eq_true, Bool.not_eq_true', List.any_eq_false]
  refine ⟨⟨by simp [first], by simp [notBlank]⟩, fun c hc => ?_⟩
  obtain ⟨hv, hlt, -⟩ := value_of_isDigit (hds c hc)
  rw [hv]
  simpa using hlt

theorem float?_of_digits {ds : List Char} (hds : ∀ d ∈ ds, d.isDigit = true) :
    float? (ds ++ '\n' :: rest) = none := by
  have part : ∀ d : Char, d.isDigit = true → isDecimalPart d = true := by
    intro d hd
    simp [isDecimalPart, hd]
  obtain ⟨-, drop⟩ := span_digits rest part (by decide) hds
  have tail : floatTail? ('\n' :: rest) = none := rfl
  unfold float?
  split
  · rfl
  · rw [drop, tail]
    simp

theorem literal?_of_isPosition {s : String} (h : isPosition s = true) :
    literal? (s.toList ++ '\n' :: rest) =
      some (.integer (Nat.ofDigitChars 10 s.toList 0) "", '\n' :: rest) := by
  obtain ⟨d, ds, hs, hds, hbase⟩ : ∃ d ds, s.toList = d :: ds ∧ (∀ c ∈ d :: ds, c.isDigit = true) ∧
      numberBase (d :: ds ++ '\n' :: rest) = (10, d :: ds ++ '\n' :: rest) := by
    rcases isPosition_iff.1 h with rfl | ⟨d, ds, hs, hd, hds⟩
    · exact ⟨'0', [], rfl, List.forall_mem_singleton.2 (by decide), rfl⟩
    · refine ⟨d, ds, hs, hds, ?_⟩
      rw [List.cons_append]
      unfold numberBase
      split <;> simp_all
  have first := hds d List.mem_cons_self
  have quoted : quotedLiteral? .text (d :: ds ++ '\n' :: rest) = none := by
    rw [List.cons_append]
    unfold quotedLiteral?
    split <;> simp_all
  rw [hs]
  unfold literal?
  rw [float?_of_digits hds, integer?_of_digits hds (List.cons_ne_nil _ _) hbase,
    digitsValue_eq hds]
  split
  · next he => obtain rfl := (List.cons.inj he).1; cases first
  · next he => obtain rfl := (List.cons.inj he).1; cases first
  · next he => obtain rfl := (List.cons.inj he).1; cases first
  · next he => obtain rfl := (List.cons.inj he).1; cases first
  · rw [quoted]; rfl

theorem atSymbolChar_of_isDigit {d : Char} {cs : List Char} (hd : d.isDigit = true) :
    atSymbolChar (d :: cs) = false := by
  have none : symbolChars.any Char.isDigit = false := by decide
  unfold atSymbolChar
  split
  · rfl
  · rfl
  · next he =>
    cases he
    refine Bool.eq_false_iff.2 fun hm => ?_
    exact List.any_eq_false.1 none _ (List.contains_iff_mem.1 hm) hd
  · rfl

theorem Scans.position {s : String} (h : isPosition s = true) :
    Scans f (s.toList ++ '\n' :: rest)
      (f.push (.literal (.integer (Nat.ofDigitChars 10 s.toList 0) ""))) ('\n' :: rest) := by
  have hlit : literal? (s.toList ++ '\n' :: rest) = some _ := literal?_of_isPosition h
  obtain ⟨d, ds, hs, hd⟩ := exists_of_isPosition h
  have special : ['/', '(', ')', '[', ']', '\x7b', '\x7d'].any Char.isDigit = false := by decide
  rw [hs, List.cons_append] at hlit ⊢
  refine step ?_ (by simp)
  rw [step?_of_leaf (isGap_eq_false_of_isDigit hd) fun hm => ?_, leaf?, hlit]
  · rfl
  · exact List.any_eq_false.1 special d hm hd

/-! ## Texts that spell tokens -/

/-- Wherever the text stands, and whatever follows it, these tokens are read from it. -/
def Spells (cs : List Char) (ts : List Token) : Prop :=
  ∀ f rest, Scans f (cs ++ rest) ⟨ts.reverse ++ f.done, f.outer⟩ rest

namespace Spells

variable {ds : List Char} {ts vs : List Token}

theorem nil : Spells [] [] :=
  fun _ _ => Scans.refl

theorem append (hc : Spells cs ts) (hd : Spells ds vs) : Spells (cs ++ ds) (ts ++ vs) := by
  intro f rest
  rw [List.append_assoc, List.reverse_append, List.append_assoc]
  exact (hc f _).trans (hd _ rest)

theorem flatMap {ι : Type} {text : ι → List Char} {tokens : ι → List Token} {is : List ι}
    (h : ∀ i ∈ is, Spells (text i) (tokens i)) : Spells (is.flatMap text) (is.flatMap tokens) := by
  induction is with
  | nil => exact nil
  | cons i is ih =>
      rw [List.forall_mem_cons] at h
      exact append h.1 (ih h.2)

theorem fixed {k : Nat} (hk : k ≤ cs.length)
    (h : ∀ n f rest, scan? (n + k) f (cs ++ rest) = scan? n ⟨ts.reverse ++ f.done, f.outer⟩ rest) :
    Spells cs ts :=
  fun f rest => Scans.fixed hk fun n => h n f rest

theorem word (hn : IsWord n) (hstop : ∀ rest, stops (cs ++ rest) = true) (h : Spells cs ts) :
    Spells (n.toList ++ cs) (.ident n :: ts) := by
  intro f rest
  rw [List.append_assoc, List.reverse_cons, List.append_assoc]
  exact (Scans.word hn (hstop rest)).trans (h _ rest)

theorem group {d : Delimiter} {opening closing : List Char}
    (hopen : ∀ f rest, Scans f (opening ++ rest) (f.openGroup d) rest) (h : Spells cs ts)
    (hclose : ∀ inner before outer rest, Scans ⟨inner, (d, before) :: outer⟩ (closing ++ rest)
      ⟨.group d inner.reverse :: before, outer⟩ rest) :
    Spells (opening ++ (cs ++ closing)) [.group d ts] := by
  intro f rest
  have close := hclose (ts.reverse ++ (f.openGroup d).done) f.done f.outer rest
  rw [List.append_assoc, List.append_assoc]
  refine (hopen f _).trans ((h _ _).trans ?_)
  simpa [Frames.openGroup] using close

theorem lex_eq (h : Spells cs ts) (hmark : dropByteOrderMark cs = cs) : lex cs = some ts := by
  have scans := h .start []
  rw [List.append_nil] at scans
  rw [Scans.lex_eq scans hmark]
  simp [Frames.finish?, Frames.start]

end Spells

end NodeIdGen.Syntax
