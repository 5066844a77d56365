import Mathlib.Data.List.DropRight
import NodeIdGen.Proofs.Except
import NodeIdGen.Proofs.Json.Spelling
import NodeIdGen.Proofs.Run

/-!
# Every text of a value is read

A value made of strings, arrays and objects is read from each of its texts, with nothing else read:
`Reads` says this for whatever follows, so that readings compose as texts do. White space in front
of a token makes no difference, because every reader here looks for its first token behind it.
-/

namespace NodeIdGen.Json

open NodeIdGen.Json.Reader

variable {α β : Type} {w cs : List Char}

/-- Wherever the characters stand in front, the reader gets the result from them alone. -/
def Reads (r : Reader α) (cs : List Char) (a : α) : Prop :=
  ∀ rest : Symbols, r (cs.map some ++ rest) = .ok (a, rest)

namespace Reads

theorem bind {r : Reader α} {f : α → Reader β} {cs ds : List Char} {a : α} {b : β}
    (h : Reads r cs a) (hf : Reads (f a) ds b) : Reads (r >>= f) (cs ++ ds) b := by
  intro rest
  rw [List.map_append, List.append_assoc, bind_of_ok (h _)]
  exact hf rest

theorem map {r : Reader α} {a : α} (h : Reads r cs a) (f : α → β) :
    Reads (f <$> r) cs (f a) := by
  intro rest
  rw [map_apply, h rest]

theorem bind_pure {r : Reader α} {a : α} (h : Reads r cs a) (f : α → β) :
    Reads (r >>= fun a => pure (f a)) cs (f a) := by
  intro rest
  rw [bind_of_ok (h rest), pure_apply]

end Reads

/-! ## White space -/

/-- The reader does not see white space in front. -/
def Passes (r : Reader α) : Prop :=
  ∀ text, r (text.dropWhile isSpace) = r text

theorem peek_apply (text : Symbols) :
    peek text = .ok (text.dropWhile isSpace, text.dropWhile isSpace) :=
  rfl

theorem passes_peek (f : Symbols → Reader α) : Passes (peek >>= f) := by
  intro text
  rw [bind_of_ok (peek_apply _), bind_of_ok (peek_apply _), List.dropWhile_idempotent]

theorem Passes.bind {r : Reader α} (h : Passes r) (f : α → Reader β) : Passes (r >>= f) := by
  intro text
  rw [bind_apply, bind_apply, h text]

theorem dropWhile_gap (hw : IsGap w) (text : Symbols) :
    (w.map some ++ text).dropWhile isSpace = text.dropWhile isSpace := by
  refine List.dropWhile_append_of_pos fun s hs => ?_
  obtain ⟨c, hc, rfl⟩ := List.mem_map.1 hs
  have space : ∀ c ∈ [' ', '\n', '\t', '\r'], isSpace (some c) = true := by simp [isSpace]
  exact space c (hw c hc)

theorem Passes.gap {r : Reader α} (h : Passes r) (hw : IsGap w) (cs : List Char) (rest : Symbols) :
    r ((w ++ cs).map some ++ rest) = r (cs.map some ++ rest) := by
  rw [List.map_append, List.append_assoc, ← h, dropWhile_gap hw, h]

theorem Reads.behind {r : Reader α} {a : α} (h : Reads r cs a) (hr : Passes r) (hw : IsGap w) :
    Reads r (w ++ cs) a := by
  intro rest
  rw [hr.gap hw, h rest]

theorem peek_cons {c : Char} (hc : isSpace (some c) = false) (rest : Symbols) :
    peek (some c :: rest) = .ok (some c :: rest, some c :: rest) := by
  rw [peek_apply, List.dropWhile_cons_of_neg (by rw [hc]; exact Bool.false_ne_true)]

theorem peek_bind {c : Char} (hc : isSpace (some c) = false) (f : Symbols → Reader α)
    (cs : List Char) (rest : Symbols) : (peek >>= f) ((c :: cs).map some ++ rest) =
      f (some c :: (cs.map some ++ rest)) (some c :: (cs.map some ++ rest)) :=
  bind_of_ok (peek_cons hc _) f

/-! ## Strings -/

theorem stringRest_cons (n : Nat) (before : Symbols) (s : Option Char) (rest : Symbols) :
    stringRest (n + 1) before (s :: rest) =
      if s = some '"' then .ok (before.reverse, rest)
      else if s = some '\\' then (escape >>= fun c => stringRest n (some c :: before)) rest
      else if s.any (·.toNat < 0x20) then .error (.text .controlCharacter)
      else stringRest n (s :: before) rest := by
  have h : stringRest (n + 1) before (s :: rest) =
    (do set rest
        if s = some '"' then return before.reverse
        else if s = some '\\' then
          let c ← escape
          stringRest n (some c :: before)
        else if s.any (·.toNat < 0x20) then bad .controlCharacter
        else stringRest n (s :: before) : Reader Symbols) (s :: rest) := rfl
  rw [h]
  split
  · rfl
  · split
    · rfl
    · split <;> rfl

theorem stringRest_escape {rest rest' : Symbols} {c : Char} (h : escape rest = .ok (c, rest'))
    (n : Nat) (before : Symbols) :
    stringRest (n + 1) before (some '\\' :: rest) = stringRest n (some c :: before) rest' := by
  rw [stringRest_cons, if_neg (by decide), if_pos rfl, bind_of_ok h]

theorem escape_cons (d : Char) (rest : Symbols) :
    escape (some d :: rest) = match shortEscape? d with
      | some c => .ok (c, rest)
      | none => if some d = some 'u' then numericEscape rest else .error (.text .badEscape) := by
  have h : escape (some d :: rest) =
      (match shortEscape? d with
      | some c => (do set rest; return c : Reader Char)
      | none => if some d = some 'u' then (do set rest; numericEscape) else bad .badEscape)
        (some d :: rest) := rfl
  rw [h]
  cases shortEscape? d with
  | some c => rfl
  | none =>
      dsimp only
      split <;> rfl

theorem escape_letter {e c : Char} (h : (e, c) ∈ letterEscapes) (rest : Symbols) :
    escape (some e :: rest) = .ok (c, rest) := by
  have letters : ∀ p ∈ letterEscapes, shortEscape? p.1 = some p.2 := by decide
  rw [escape_cons, letters (e, c) h]

theorem escape_numeric (rest : Symbols) : escape (some 'u' :: rest) = numericEscape rest :=
  (escape_cons 'u' rest).trans rfl

theorem fourDigits_append {n : Nat} {ds : List Char} (h : IsHex n ds) (rest : Symbols) :
    fourDigits (ds.map some ++ rest) = .ok (n, rest) := by
  obtain ⟨hlen, vs, hvs, rfl⟩ := h
  have htake : (ds.map some ++ rest).take 4 = ds.map some :=
    List.take_left' (by rw [List.length_map, hlen])
  have hdrop : (ds.map some ++ rest).drop 4 = rest :=
    List.drop_left' (by rw [List.length_map, hlen])
  have values : ∀ {ds : List Char} {vs : List Nat},
      List.Forall₂ (fun d v => hexValue? d = some v) ds vs →
      (ds.map some).filterMap (fun s => s.bind hexValue?) = vs := by
    intro ds vs h
    induction h with
    | nil => rfl
    | @cons d v _ _ hd _ ih =>
        have first : (some d).bind hexValue? = some v := hd
        rw [List.map_cons, List.filterMap_cons, first, ih]
  unfold fourDigits
  rw [bind_of_ok get_apply, htake, hdrop, values hvs, if_pos (hvs.length_eq ▸ hlen),
    bind_of_ok set_apply, pure_apply]

theorem pairMark_cons (c : Char) (rest : Symbols) :
    pairMark c (some c :: rest) = .ok ((), rest) := by
  have h : pairMark c (some c :: rest) =
    (if some c = some c then set rest else bad .endInEscape : Reader Unit) (some c :: rest) := rfl
  rw [h, if_pos rfl]
  rfl

/-- No character is half of a surrogate pair. -/
theorem toNat_valid (c : Char) : c.toNat < 0xd800 ∨ 0xdfff < c.toNat ∧ c.toNat < 0x110000 :=
  c.valid

theorem numericEscape_digits {c : Char} {ds : List Char} (h : IsHex c.toNat ds) (rest : Symbols) :
    numericEscape (ds.map some ++ rest) = .ok (c, rest) := by
  have := toNat_valid c
  unfold numericEscape
  rw [bind_of_ok (fourDigits_append h rest), if_neg (by omega), if_neg (by omega), pure_apply,
    Char.ofNat_toNat]

theorem numericEscape_pair {c : Char} {high low : List Char} (hc : 0x10000 ≤ c.toNat)
    (hhigh : IsHex (0xd800 + (c.toNat - 0x10000) / 0x400) high)
    (hlow : IsHex (0xdc00 + (c.toNat - 0x10000) % 0x400) low) (rest : Symbols) :
    numericEscape ((high ++ '\\' :: 'u' :: low).map some ++ rest) = .ok (c, rest) := by
  have := toNat_valid c
  have halves : (0xd800 + (c.toNat - 0x10000) / 0x400 - 0xd800) * 0x400 +
      (0xdc00 + (c.toNat - 0x10000) % 0x400 - 0xdc00) + 0x10000 = c.toNat := by
    omega
  unfold numericEscape
  rw [List.map_append, List.append_assoc, bind_of_ok (fourDigits_append hhigh _),
    if_neg (by omega), if_pos (by omega), List.map_cons, List.cons_append,
    bind_of_ok (pairMark_cons _ _), List.map_cons, List.cons_append,
    bind_of_ok (pairMark_cons _ _), bind_of_ok (fourDigits_append hlow rest), if_pos (by omega),
    pure_apply, halves, Char.ofNat_toNat]

theorem stringRest_char {c : Char} {p : List Char} (h : SpellsChar c p) (n : Nat)
    (before rest : Symbols) :
    stringRest (n + 1) before (p.map some ++ rest) = stringRest n (some c :: before) rest := by
  cases h with
  | plain hc hquote hslash =>
      rw [List.map_singleton, List.singleton_append, stringRest_cons,
        if_neg (by simpa using hquote), if_neg (by simpa using hslash), if_neg (by simpa using hc)]
  | letter e he => exact stringRest_escape (escape_letter he rest) _ _
  | digits hds =>
      refine stringRest_escape ?_ _ _
      exact (escape_numeric _).trans (numericEscape_digits hds rest)
  | pair hc hhigh hlow =>
      refine stringRest_escape ?_ _ _
      exact (escape_numeric _).trans (numericEscape_pair hc hhigh hlow rest)

/-- Characters are read one by one up to the closing quote. -/
theorem stringRest_string {us : List Char} {parts : List (List Char)}
    (h : List.Forall₂ SpellsChar us parts) (before rest : Symbols) {n : Nat} (hn : us.length < n) :
    stringRest n before ((parts.flatten ++ ['"']).map some ++ rest) =
      .ok (before.reverse ++ us.map some, rest) := by
  induction h generalizing n before with
  | nil =>
      obtain ⟨n, rfl⟩ := Nat.exists_eq_add_one.2 (Nat.zero_lt_of_lt hn)
      simp [stringRest_cons]
  | @cons c p us parts hc _ ih =>
      obtain ⟨n, rfl⟩ := Nat.exists_eq_add_one.2 (Nat.zero_lt_of_lt hn)
      rw [List.flatten_cons, List.append_assoc, List.map_append, List.append_assoc,
        stringRest_char hc, ih _ (by simpa using hn)]
      simp

theorem SpellsChar.length_pos {c : Char} {p : List Char} (h : SpellsChar c p) : 0 < p.length := by
  cases h <;> exact Nat.succ_pos _

theorem length_le_flatten {us : List Char} {parts : List (List Char)}
    (h : List.Forall₂ SpellsChar us parts) : us.length ≤ parts.flatten.length := by
  induction h with
  | nil => exact Nat.le_refl _
  | cons hc _ ih =>
      have := hc.length_pos
      rw [List.flatten_cons, List.length_append, List.length_cons]
      omega

theorem reads_string {s : String} {parts : List (List Char)}
    (h : List.Forall₂ SpellsChar s.toList parts) :
    Reads Reader.string (parts.flatten ++ ['"']) s := by
  intro rest
  have hlen : s.toList.length < ((parts.flatten ++ ['"']).map some ++ rest).length + 1 := by
    have := length_le_flatten h
    simp only [List.length_append, List.length_map]
    omega
  unfold Reader.string
  rw [bind_of_ok get_apply, bind_of_ok (stringRest_string h [] rest hlen)]
  simp

/-! ## Punctuation -/

theorem passes_colon : Passes colon :=
  passes_peek _

theorem reads_colon (hw : IsGap w) : Reads colon (w ++ [':']) () := by
  refine Reads.behind (fun rest => ?_) passes_colon hw
  unfold colon
  rw [peek_bind (by decide)]
  rfl

/-- Behind white space the text starts like a value, so that no closing bracket is seen. -/
inductive Opens : List Char → Prop
  | mk {w cs : List Char} {c : Char} (hw : IsGap w) (hc : isSpace (some c) = false)
      (hclose : c ≠ ']') : Opens (w ++ c :: cs)

theorem Opens.dropWhile (h : Opens cs) (rest : Symbols) :
    ∃ c tail, c ≠ ']' ∧ (cs.map some ++ rest).dropWhile isSpace = some c :: tail := by
  cases h with
  | @mk w cs c hw hc hclose =>
      refine ⟨c, cs.map some ++ rest, hclose, ?_⟩
      rw [List.map_append, List.append_assoc, dropWhile_gap hw, List.map_cons, List.cons_append,
        List.dropWhile_cons_of_neg (by rw [hc]; exact Bool.false_ne_true)]

/-- The parts that are still to come, with the closing bracket: all of them, or those behind one
that was read. -/
inductive Awaits (close : Char) : Bool → List (List Char) → List Char → Prop
  | first {ps : List (List Char)} {cs : List Char} (h : Lists close ps cs) :
      Awaits close true ps cs
  | more {ps : List (List Char)} {cs : List Char} (h : Follows close ps cs) :
      Awaits close false ps cs

/-! ## Arrays -/

section Arrays

variable {item : Reader α} {ps : List (List Char)} {as : List α} {first : Bool}

theorem passes_nextItem (first : Bool) : Passes (nextItem first) :=
  passes_peek _

theorem nextItem_end (first : Bool) (hw : IsGap w) (rest : Symbols) :
    nextItem first ((w ++ [']']).map some ++ rest) = .ok (false, some ']' :: rest) := by
  rw [(passes_nextItem _).gap hw]
  unfold nextItem
  rw [peek_bind (by decide)]
  rfl

theorem nextItem_first (h : Opens cs) (rest : Symbols) :
    nextItem true (cs.map some ++ rest) = .ok (true, (cs.map some ++ rest).dropWhile isSpace) := by
  obtain ⟨c, tail, hc, hcs⟩ := h.dropWhile rest
  unfold nextItem
  rw [bind_of_ok (peek_apply _), hcs]
  dsimp only
  rw [if_neg (by simpa using hc), if_pos rfl]
  rfl

theorem nextItem_comma (hw : IsGap w) (h : Opens cs) (rest : Symbols) :
    nextItem false ((w ++ ',' :: cs).map some ++ rest) =
      .ok (true, (cs.map some ++ rest).dropWhile isSpace) := by
  obtain ⟨c, tail, hc, hcs⟩ := h.dropWhile rest
  rw [(passes_nextItem _).gap hw]
  unfold nextItem
  rw [peek_bind (by decide)]
  dsimp only
  rw [if_neg (by decide), if_neg Bool.false_ne_true, if_pos rfl, bind_of_ok set_apply,
    bind_of_ok (peek_apply _), hcs]
  dsimp only
  rw [if_neg (by simpa using hc)]
  rfl

theorem nextItem_none (htext : Awaits ']' first [] cs) (rest : Symbols) :
    nextItem first (cs.map some ++ rest) = .ok (false, some ']' :: rest) := by
  cases htext with
  | first h =>
      cases h with
      | nil hw => exact nextItem_end _ hw rest
  | more h =>
      cases h with
      | nil hw => exact nextItem_end _ hw rest

theorem nextItem_some {p : List Char} (hp : Opens p) (htext : Awaits ']' first (p :: ps) cs) :
    ∃ behind, Follows ']' ps behind ∧ ∀ rest, nextItem first (cs.map some ++ rest) =
      .ok (true, (p.map some ++ (behind.map some ++ rest)).dropWhile isSpace) := by
  cases htext with
  | first h =>
      cases h with
      | @cons _ behind _ h =>
          refine ⟨behind, h, fun rest => ?_⟩
          rw [List.map_append, List.append_assoc, nextItem_first hp]
  | more h =>
      cases h with
      | @cons w _ behind _ hw h =>
          refine ⟨behind, h, fun rest => ?_⟩
          have split : (w ++ ',' :: (p ++ behind)).map some ++ rest =
              (w ++ ',' :: p).map some ++ (behind.map some ++ rest) := by
            simp
          rw [split, nextItem_comma hw hp]

/-- What is known of each item: its text starts like a value, and the item is read from it. -/
abbrev ReadsItem (item : Reader α) (p : List Char) (a : α) : Prop :=
  Opens p ∧ Reads item p a

theorem itemRounds_awaits (hitem : Passes item) (h : List.Forall₂ (ReadsItem item) ps as)
    (htext : Awaits ']' first ps cs) {n : Nat} (hn : ps.length < n) (rest : Symbols) :
    itemRounds item n first (cs.map some ++ rest) = .ok (as, some ']' :: rest) := by
  induction h generalizing cs n first with
  | nil =>
      obtain ⟨n, rfl⟩ := Nat.exists_eq_add_one.2 (Nat.zero_lt_of_lt hn)
      unfold itemRounds
      rw [bind_of_ok (nextItem_none htext rest)]
      rfl
  | cons hp _ ih =>
      obtain ⟨n, rfl⟩ := Nat.exists_eq_add_one.2 (Nat.zero_lt_of_lt hn)
      obtain ⟨behind, hbehind, hnext⟩ := nextItem_some hp.1 htext
      unfold itemRounds
      rw [bind_of_ok (hnext rest), if_pos rfl, bind_of_ok ((hitem _).trans (hp.2 _)),
        bind_of_ok (ih (.more hbehind) (by simpa using hn))]
      rfl

/-- The closing bracket behind the items. -/
theorem endItems_bracket (rest : Symbols) : endItems (some ']' :: rest) = .ok ((), rest) := by
  unfold endItems
  rw [bind_of_ok (peek_cons (by decide) rest)]
  rfl

theorem Follows.length_lt {close : Char} (h : Follows close ps cs) : ps.length < cs.length := by
  induction h with
  | nil hw => simp
  | cons hw h ih =>
      simp only [List.length_append, List.length_cons]
      omega

theorem Lists.length_le {close : Char} (h : Lists close ps cs) : ps.length ≤ cs.length := by
  cases h with
  | nil hw => exact Nat.zero_le _
  | cons h =>
      have := h.length_lt
      simp only [List.length_append, List.length_cons]
      omega

theorem reads_items (hitem : Passes item) (h : List.Forall₂ (ReadsItem item) ps as)
    (htext : Lists ']' ps cs) : Reads (items item) cs as := by
  intro rest
  have hlen : ps.length < (cs.map some ++ rest).length + 1 := by
    have := htext.length_le
    simp only [List.length_append, List.length_map]
    omega
  unfold items
  rw [bind_of_ok get_apply, bind_of_ok (itemRounds_awaits hitem h (.first htext) hlen rest),
    bind_of_ok (endItems_bracket rest)]
  rfl

end Arrays

/-! ## Objects -/

section Objects

variable {σ : Type} {member : σ → String → Reader σ} {ps : List (List Char)} {first : Bool}

theorem passes_nextName (first : Bool) : Passes (nextName first) :=
  passes_peek _

theorem openName_quote (atEnd : SyntaxFault) (rest : Symbols) :
    openName atEnd (some '"' :: rest) = .ok ((), rest) := by
  unfold openName
  rw [bind_of_ok (peek_cons (by decide) rest)]
  rfl

theorem nextName_end (first : Bool) (hw : IsGap w) (rest : Symbols) :
    nextName first ((w ++ ['\x7d']).map some ++ rest) = .ok (none, some '\x7d' :: rest) := by
  rw [(passes_nextName _).gap hw]
  unfold nextName
  rw [peek_bind (by decide)]
  rfl

theorem nextName_first_quote (hw : IsGap w) (cs : List Char) (rest : Symbols) :
    nextName true ((w ++ '"' :: cs).map some ++ rest) =
      (some <$> Reader.string) (cs.map some ++ rest) := by
  rw [(passes_nextName _).gap hw]
  unfold nextName
  rw [peek_bind (by decide)]
  dsimp only
  rw [if_neg (by decide), if_pos rfl, bind_of_ok (openName_quote _ _)]

theorem nextName_comma_quote {w' : List Char} (hw' : IsGap w') (hw : IsGap w) (cs : List Char)
    (rest : Symbols) :
    nextName false ((w' ++ ',' :: (w ++ '"' :: cs)).map some ++ rest) =
      (some <$> Reader.string) (cs.map some ++ rest) := by
  have quote : ((w ++ '"' :: cs).map some ++ rest).dropWhile isSpace =
      some '"' :: (cs.map some ++ rest) := by
    rw [List.map_append, List.append_assoc, dropWhile_gap hw]
    exact List.dropWhile_cons_of_neg (by decide)
  rw [(passes_nextName _).gap hw']
  unfold nextName
  rw [peek_bind (by decide)]
  dsimp only
  rw [if_neg (by decide), if_neg Bool.false_ne_true, if_pos rfl, bind_of_ok set_apply,
    bind_of_ok (peek_apply _), quote, if_neg (by simp [atChar]), bind_of_ok (openName_quote _ _)]

theorem nextName_none (htext : Awaits '\x7d' first [] cs) (rest : Symbols) :
    nextName first (cs.map some ++ rest) = .ok (none, some '\x7d' :: rest) := by
  cases htext with
  | first h =>
      cases h with
      | nil hw => exact nextName_end _ hw rest
  | more h =>
      cases h with
      | nil hw => exact nextName_end _ hw rest

/-- Of the next member the name is read, from behind its opening quote. -/
theorem nextName_some {w' body vs : List Char} (hw : IsGap w)
    (htext : Awaits '\x7d' first ((w ++ (('"' :: body) ++ (w' ++ [':'])) ++ vs) :: ps) cs) :
    ∃ behind, Follows '\x7d' ps behind ∧ ∀ rest, nextName first (cs.map some ++ rest) =
      (some <$> Reader.string) (body.map some ++
        ((w' ++ [':'] ++ vs).map some ++ (behind.map some ++ rest))) := by
  cases htext with
  | first h =>
      cases h with
      | @cons _ behind _ h =>
          refine ⟨behind, h, fun rest => Eq.trans ?_ (nextName_first_quote hw _ _)⟩
          simp
  | more h =>
      cases h with
      | @cons v _ behind _ hv h =>
          refine ⟨behind, h, fun rest => Eq.trans ?_ (nextName_comma_quote hv hw _ _)⟩
          simp

/-- What reading members one by one makes of them: each is read behind its name, with the colon and
the white space in front of it. -/
inductive ReadsMembers (member : σ → String → Reader σ) : σ → List (List Char) → σ → Prop
  | nil (s : σ) : ReadsMembers member s [] s
  | cons {s t u : σ} {name : String} {ns vs : List Char} {ps : List (List Char)}
      (hname : SpellsName name ns)
      (h : ∀ w, IsGap w → Reads (member s name) (w ++ [':'] ++ vs) t)
      (hs : ReadsMembers member t ps u) : ReadsMembers member s ((ns ++ vs) :: ps) u

theorem memberRounds_awaits {s u : σ} (h : ReadsMembers member s ps u)
    (htext : Awaits '\x7d' first ps cs) {n : Nat} (hn : ps.length < n) (rest : Symbols) :
    memberRounds member n first s (cs.map some ++ rest) = .ok (u, some '\x7d' :: rest) := by
  induction h generalizing cs n first with
  | nil s =>
      obtain ⟨n, rfl⟩ := Nat.exists_eq_add_one.2 (Nat.zero_lt_of_lt hn)
      unfold memberRounds
      rw [bind_of_ok (nextName_none htext rest)]
      rfl
  | cons hname hm _ ih =>
      obtain ⟨n, rfl⟩ := Nat.exists_eq_add_one.2 (Nat.zero_lt_of_lt hn)
      cases hname with
      | mk hw hk hw' =>
          cases hk with
          | quoted hk =>
              obtain ⟨behind, hbehind, hnext⟩ := nextName_some hw htext
              have found := (hnext rest).trans ((reads_string hk).map some _)
              unfold memberRounds
              rw [bind_of_ok found]
              dsimp only
              rw [bind_of_ok (hm _ hw' _), ih (.more hbehind) (by simpa using hn)]

/-- Members are read from behind the opening brace up to the closing one. -/
theorem memberRounds_lists {s u : σ} (h : ReadsMembers member s ps u) (htext : Lists '\x7d' ps cs)
    (rest : Symbols) :
    memberRounds member ((cs.map some ++ rest).length + 1) true s (cs.map some ++ rest) =
      .ok (u, some '\x7d' :: rest) := by
  refine memberRounds_awaits h (.first htext) ?_ rest
  have := htext.length_le
  simp only [List.length_append, List.length_map]
  omega

theorem reads_members {s u : σ} (h : ReadsMembers member s ps u) (htext : Lists '\x7d' ps cs) :
    Reads (members member s) cs u := by
  intro rest
  unfold members
  rw [bind_of_ok get_apply, bind_of_ok (memberRounds_lists h htext rest)]
  rfl

end Objects

/-! ## Values -/

theorem Spells.opens {v : Json} (h : Spells v cs) : Opens cs := by
  cases h with
  | string hw h =>
      cases h with
      | quoted h => exact .mk hw (by decide) (by decide)
  | array hw _ _ => exact .mk hw (by decide) (by decide)
  | object hw _ _ _ => exact .mk hw (by decide) (by decide)

/-- Items are read from the texts of their values. -/
theorem readsItems {item : Reader α} {vs : List Json} {ps : List (List Char)} {as : List α}
    (h : List.Forall₂ Spells vs ps)
    (hitem : List.Forall₂ (fun v a => ∀ cs, Spells v cs → Reads item cs a) vs as) :
    List.Forall₂ (ReadsItem item) ps as := by
  induction h generalizing as with
  | nil =>
      cases hitem
      exact .nil
  | cons hv _ ih =>
      cases hitem with
      | cons ha has => exact .cons ⟨hv.opens, ha _ hv⟩ (ih has)

theorem passes_value (n : Nat) : Passes (value n) := by
  cases n with
  | zero => exact fun _ => rfl
  | succ n => exact passes_peek _

/-- Reading members does what a step on members does, when each of them is read that way. -/
theorem readsMembers_of_foldlM {σ ε : Type} {member : σ → String → Reader σ}
    {step : σ → String × Json → Except ε σ} {ms : List (String × Json)} {ps : List (List Char)}
    (h : List.Forall₂ SpellsMember ms ps)
    (hstep : ∀ m ∈ ms, ∀ s t, step s m = .ok t → ∀ w vs, IsGap w → Spells m.2 vs →
      Reads (member s m.1) (w ++ [':'] ++ vs) t)
    {s t : σ} (hfold : ms.foldlM step s = .ok t) : ReadsMembers member s ps t := by
  induction h generalizing s with
  | nil =>
      cases hfold
      exact .nil _
  | cons hm _ ih =>
      obtain ⟨ns, vs, hname, hv, rfl⟩ := hm
      rw [List.forall_mem_cons] at hstep
      rw [List.foldlM_cons, Except.bind_ok_iff] at hfold
      obtain ⟨u, hu, hfold⟩ := hfold
      exact .cons hname (fun w hw => hstep.1 s u hu w vs hw hv) (ih hstep.2 hfold)

/-- A value that nests less than so deep is read from each of its texts by a reader that goes so
deep. -/
theorem Textual.reads {n : Nat} {v : Json} (hv : Textual n v) (h : Spells v cs) :
    Reads (value n) cs v := by
  induction hv generalizing cs with
  | string n s =>
      cases h with
      | string hw h =>
          refine Reads.behind (fun rest => ?_) (passes_value _) hw
          cases h with
          | quoted h =>
              unfold value
              rw [peek_bind (by decide)]
              exact (reads_string h).map Json.string rest
  | @array n vs _ ih =>
      obtain ⟨w, ps, body, hw, hps, hlist, rfl⟩ := spells_array_iff.1 h
      refine Reads.behind (fun rest => ?_) (passes_value _) hw
      have items : List.Forall₂ (ReadsItem (value (n + 1))) ps vs :=
        readsItems hps (List.forall₂_same.2 fun v hv cs h => ih v hv h)
      unfold value
      rw [peek_bind (by decide)]
      exact (reads_items (passes_value _) items hlist).map Json.array rest
  | @object n ms _ ih =>
      obtain ⟨w, ps, body, hw, hps, hlist, rfl⟩ := spells_object_iff.1 h
      refine Reads.behind (fun rest => ?_) (passes_value _) hw
      have fold : ms.foldlM (fun before m => (pure (m :: before) : Except Fault _)) [] =
          .ok ms.reverse := by
        rw [List.foldlM_pure, List.foldl_flip_cons_eq_append', List.append_nil]
        rfl
      have each : ReadsMembers (fun (ms : List (String × Json)) name => do
          colon
          return (name, ← value (n + 1)) :: ms) [] ps ms.reverse := by
        refine readsMembers_of_foldlM hps (fun m hm before _ h w vs hw hvs => ?_) fold
        cases h
        exact (reads_colon hw).bind ((ih m hm hvs).bind_pure fun v => (m.1, v) :: before)
      have hms := reads_members each hlist rest
      unfold value
      rw [peek_bind (by decide)]
      dsimp only
      rw [if_neg (by decide), if_pos rfl, if_neg (Nat.succ_ne_zero n), bind_of_ok set_apply,
        bind_of_ok hms, List.reverse_reverse]
      rfl

/-! ## Parts of structures -/

section Structures

variable {n : Nat}

theorem passes_stringFor (expected : String) : Passes (stringFor expected) :=
  passes_peek _

theorem stringFor_quote (expected : String) (hw : IsGap w) (cs : List Char) (rest : Symbols) :
    stringFor expected ((w ++ '"' :: cs).map some ++ rest) =
      Reader.string (cs.map some ++ rest) := by
  rw [(passes_stringFor _).gap hw]
  unfold stringFor
  rw [peek_bind (by decide)]
  rfl

theorem reads_stringFor (expected : String) {s : String} (h : Spells (.string s) cs) :
    Reads (stringFor expected) cs s := by
  cases h with
  | string hw h =>
      cases h with
      | quoted h =>
          intro rest
          rw [stringFor_quote _ hw, reads_string h rest]

theorem SpellsString.unique {s s' : String} (h : SpellsString s cs) (h' : SpellsString s' cs) :
    s = s' := by
  have read {s : String} (h : SpellsString s cs) := reads_stringFor "" (.string isGap_nil h) []
  exact (Prod.mk.inj (Except.ok.inj ((read h).symm.trans (read h')))).1

theorem passes_sequence (item : Nat → Reader α) : Passes (Reader.sequence n item) :=
  passes_peek _

theorem reads_sequence {item : Nat → Reader α} {vs : List Json} {as : List α}
    (hitem : Passes (item (n + 1)))
    (hitems : List.Forall₂ (fun v a => ∀ cs, Spells v cs → Reads (item (n + 1)) cs a) vs as)
    (h : Spells (.array vs) cs) : Reads (Reader.sequence (n + 2) item) cs as := by
  obtain ⟨w, ps, body, hw, hps, hlist, rfl⟩ := spells_array_iff.1 h
  refine Reads.behind (fun rest => ?_) (passes_sequence item) hw
  unfold Reader.sequence
  rw [peek_bind (by decide)]
  dsimp only
  rw [if_pos rfl, if_neg (by omega), bind_of_ok set_apply]
  exact reads_items hitem (readsItems hps hitems) hlist rest

theorem passes_structured (expected : String) (fromItems fromMembers : Nat → Reader α) :
    Passes (structured n expected fromItems fromMembers) :=
  passes_peek _

theorem reads_structured {expected : String} {fromItems fromMembers : Nat → Reader α}
    {ms : List (String × Json)} {a : α}
    (hmembers : ∀ ps body, List.Forall₂ SpellsMember ms ps → Lists '\x7d' ps body →
      Reads (fromMembers (n + 1)) body a)
    (h : Spells (.object ms) cs) :
    Reads (structured (n + 2) expected fromItems fromMembers) cs a := by
  obtain ⟨w, ps, body, hw, hps, hlist, rfl⟩ := spells_object_iff.1 h
  refine Reads.behind (fun rest => ?_) (passes_structured _ _ _) hw
  unfold structured
  rw [peek_bind (by decide)]
  dsimp only
  rw [if_neg (by decide), if_pos rfl, if_neg (by omega), bind_of_ok set_apply]
  exact hmembers ps body hps hlist rest

end Structures

/-! ## Whole texts -/

/-- A value that is read from each of its texts is read from a text that holds nothing else. -/
theorem Reads.run {r : Reader α} {v : Json} {text : String} {a : α} (htext : SpellsText v text)
    (h : ∀ cs, Spells v cs → Reads r cs a) : Reader.run r (symbols text) = .ok a := by
  obtain ⟨cs, w, hcs, hw, heq⟩ := htext
  have symbols : symbols text = cs.map some ++ w.map some := by
    rw [symbols, heq, List.map_append]
  have nothing : (w.map some : Symbols).dropWhile isSpace = [] := by
    have := dropWhile_gap hw []
    rwa [List.append_nil] at this
  unfold Reader.run StateT.run
  rw [symbols, h cs hcs]
  show (if ((w.map some : Symbols).dropWhile isSpace).isEmpty then _ else _) = _
  rw [nothing]
  rfl

end NodeIdGen.Json
