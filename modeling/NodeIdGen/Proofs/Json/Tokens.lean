import NodeIdGen.Proofs.Json.Grammar
import NodeIdGen.Proofs.Json.ReadBack

/-!
# Readers of tokens keep to the grammar

A token of the grammar can still be refused: an escape may be half a surrogate pair, and a number
may be too large. But a reader that does not fail on a token has taken exactly that token: `Tracks`
says this, and like `Reads` it composes as texts do. It needs to know a little of what follows,
because a number ends where its text does only if no further digit is next.
-/

namespace NodeIdGen.Json

open NodeIdGen.Json.Reader

variable {α β : Type} {w cs ds : List Char}

/-- Nothing that a number could go on with stands in front. -/
structure Ends (rest : Symbols) : Prop where
  digit : atDigit rest = false
  point : atChar '.' rest = false
  small : atChar 'e' rest = false
  capital : atChar 'E' rest = false

/-- Wherever the characters stand in front and end there, the reader fails or takes them and nothing
else, and its result is such. -/
def Tracks (r : Reader α) (cs : List Char) (P : α → Prop) : Prop :=
  ∀ ⦃rest a rest'⦄, Ends rest → r (cs.map some ++ rest) = .ok (a, rest') → P a ∧ rest' = rest

namespace Tracks

variable {r : Reader α} {P : α → Prop} {Q : β → Prop}

theorem of_reads {a : α} (h : Reads r cs a) (ha : P a) : Tracks r cs P := by
  intro rest b rest' _ hok
  rw [h rest] at hok
  cases hok
  exact ⟨ha, rfl⟩

/-- A reader that only fails takes nothing. -/
theorem of_error (h : ∀ text p, r text ≠ .ok p) : Tracks r cs P :=
  fun _ _ _ _ hok => absurd hok (h _ _)

theorem bad {f : SyntaxFault} : Tracks (Reader.bad f) cs P :=
  of_error fun _ _ => nofun

theorem pure {a : α} (ha : P a) : Tracks (Pure.pure a) [] P :=
  of_reads (fun _ => rfl) ha

theorem ite {c : Prop} [Decidable c] {r' : Reader α} (h : c → Tracks r cs P)
    (h' : ¬ c → Tracks r' cs P) : Tracks (if c then r else r') cs P := by
  split
  · next hc => exact h hc
  · next hc => exact h' hc

theorem imp (h : Tracks r cs P) {P' : α → Prop} (himp : ∀ a, P a → P' a) : Tracks r cs P' :=
  fun _ _ _ hrest hok => (h hrest hok).imp_left (himp _)

theorem bind_pure (h : Tracks r cs P) {f : α → β} (hf : ∀ a, P a → Q (f a)) :
    Tracks (r >>= fun a => Pure.pure (f a)) cs Q := by
  intro rest b rest' hrest hok
  obtain ⟨a, t, ha, hb⟩ := ok_of_bind hok
  cases hb
  exact (h hrest ha).imp_left (hf a)

theorem map (h : Tracks r cs P) {f : α → β} (hf : ∀ a, P a → Q (f a)) :
    Tracks (f <$> r) cs Q := by
  rw [map_eq_pure_bind]
  exact h.bind_pure hf

/-- A token that is always read may stand in front. -/
theorem bind {a : α} (h : Reads r cs a) {f : α → Reader β} (hf : Tracks (f a) ds Q) :
    Tracks (r >>= f) (cs ++ ds) Q := by
  intro rest b rest' hrest hok
  rw [List.map_append, List.append_assoc, bind_of_ok (h _)] at hok
  exact hf hrest hok

theorem behind (h : Tracks r cs P) (hr : Passes r) (hw : IsGap w) : Tracks r (w ++ cs) P := by
  intro rest a rest' hrest hok
  rw [hr.gap hw] at hok
  exact h hrest hok

end Tracks

/-! ## Strings -/

section Strings

variable {parts : List (List Char)} {rest rest' : Symbols}

theorem hexValue?_lt {c : Char} {v : Nat} (h : hexValue? c = some v) : v < 16 := by
  unfold hexValue? at h
  split at h
  · next hc =>
    cases h
    have : c.toNat ≤ '9'.toNat := hc.2
    have : '9'.toNat = '0'.toNat + 9 := rfl
    omega
  · split at h
    · next hc =>
      cases h
      have : c.toNat ≤ 'f'.toNat := hc.2
      have : 'f'.toNat = 'a'.toNat + 5 := rfl
      omega
    · split at h
      · next hc =>
        cases h
        have : c.toNat ≤ 'F'.toNat := hc.2
        have : 'F'.toNat = 'A'.toNat + 5 := rfl
        omega
      · cases h

theorem IsHex.lt {n : Nat} (h : IsHex n ds) : n < 0x10000 := by
  obtain ⟨hlen, vs, hvs, rfl⟩ := h
  match ds, hlen with
  | [a, b, c, d], _ =>
    obtain _ | ⟨ha, _ | ⟨hb, _ | ⟨hc, _ | ⟨hd, _ | _⟩⟩⟩⟩ := hvs
    have := hexValue?_lt ha
    have := hexValue?_lt hb
    have := hexValue?_lt hc
    have := hexValue?_lt hd
    simp only [List.foldl_cons, List.foldl_nil]
    omega

theorem toNat_ofNat {n : Nat} (h : n.isValidChar) : (Char.ofNat n).toNat = n := by
  rw [Char.ofNat, dif_pos h]
  rfl

theorem pieces_cons (p : List Char) (parts : List (List Char)) (rest : Symbols) :
    ((p :: parts).flatten ++ ['"']).map some ++ rest =
      p.map some ++ ((parts.flatten ++ ['"']).map some ++ rest) := by
  simp

theorem pairMark_ok {c : Char} {text : Symbols} (hok : pairMark c text = .ok ((), rest)) :
    text = some c :: rest := by
  cases text with
  | nil => cases hok
  | cons s tail =>
      have step : pairMark c (s :: tail) =
        (if s = some c then set tail else bad .endInEscape : Reader Unit) (s :: tail) := rfl
      rw [step] at hok
      split at hok
      · next hs =>
        cases hok
        rw [hs]
      · cases hok

/-- Behind the first half of a surrogate pair, another numeric escape is the only piece of a string
that is not refused. -/
theorem pairMarks_piece (hparts : ∀ p ∈ parts, IsPiece p) {text text' : Symbols}
    (hslash : pairMark '\\' ((parts.flatten ++ ['"']).map some ++ rest) = .ok ((), text))
    (hmark : pairMark 'u' text = .ok ((), text')) :
    ∃ n ds parts', IsHex n ds ∧ parts = ('\\' :: 'u' :: ds) :: parts' ∧
      text' = ds.map some ++ ((parts'.flatten ++ ['"']).map some ++ rest) := by
  have marks := pairMark_ok hslash
  rw [pairMark_ok hmark] at marks
  cases parts with
  | nil => exact absurd (Option.some.inj (List.cons.inj marks).1) (by decide)
  | cons p parts =>
      rw [pieces_cons] at marks
      cases hparts p List.mem_cons_self with
      | plain _ _ hne => exact absurd (Option.some.inj (List.cons.inj marks).1) hne
      | letter he =>
          have noMark : ∀ p ∈ letterEscapes, p.1 ≠ 'u' := by decide
          exact absurd (Option.some.inj (List.cons.inj (List.cons.inj marks).2).1) (noMark _ he)
      | @digits n ds hn =>
          exact ⟨n, ds, parts, hn, rfl, (List.cons.inj (List.cons.inj marks).2).2.symm⟩

/-- The halves of a surrogate pair make up the digits of a character. -/
theorem spellsChar_pair {n m : Nat} {high low : List Char} (hhigh : IsHex n high)
    (hlow : IsHex m low) (hn : 0xd800 ≤ n ∧ n ≤ 0xdbff) (hm : 0xdc00 ≤ m ∧ m ≤ 0xdfff) :
    SpellsChar (Char.ofNat ((n - 0xd800) * 0x400 + (m - 0xdc00) + 0x10000))
      ('\\' :: 'u' :: (high ++ '\\' :: 'u' :: low)) := by
  have value := toNat_ofNat (n := (n - 0xd800) * 0x400 + (m - 0xdc00) + 0x10000)
    (by unfold Nat.isValidChar; omega)
  refine .pair ?_ ?_ ?_
  · omega
  · rwa [value, show 0xd800 + ((n - 0xd800) * 0x400 + (m - 0xdc00) + 0x10000 - 0x10000) / 0x400 = n
      by omega]
  · rwa [value, show 0xdc00 + ((n - 0xd800) * 0x400 + (m - 0xdc00) + 0x10000 - 0x10000) % 0x400 = m
      by omega]

/-- A numeric escape that is read stands for a character, alone or with the escape behind it. -/
theorem numericEscape_piece {n : Nat} (h : IsHex n ds) (hparts : ∀ p ∈ parts, IsPiece p) {c : Char}
    (hok : numericEscape (ds.map some ++ ((parts.flatten ++ ['"']).map some ++ rest)) =
      .ok (c, rest')) :
    ∃ piece parts', SpellsChar c piece ∧
      (('\\' :: 'u' :: ds) :: parts).flatten = (piece :: parts').flatten ∧
      (∀ p ∈ parts', IsPiece p) ∧ rest' = (parts'.flatten ++ ['"']).map some ++ rest := by
  have := h.lt
  unfold numericEscape at hok
  rw [bind_of_ok (fourDigits_append h _)] at hok
  split at hok
  · cases hok
  · next hlow =>
    split at hok
    · next hhigh =>
      obtain ⟨⟨⟩, _, hslash, hok⟩ := ok_of_bind hok
      obtain ⟨⟨⟩, _, hmark, hok⟩ := ok_of_bind hok
      obtain ⟨m, low, parts, hm, rfl, rfl⟩ := pairMarks_piece hparts hslash hmark
      rw [bind_of_ok (fourDigits_append hm _)] at hok
      split at hok
      · next hpair =>
        rw [pure_apply] at hok
        obtain ⟨rfl, rfl⟩ := Prod.mk.inj (Except.ok.inj hok)
        refine ⟨_, parts, spellsChar_pair h hm hhigh hpair, ?_, ?_, rfl⟩
        · simp
        · exact fun p hp => hparts p (List.mem_cons_of_mem _ hp)
      · cases hok
    · cases hok
      have value := toNat_ofNat (n := n) (by unfold Nat.isValidChar; omega)
      exact ⟨_, parts, .digits (value.symm ▸ h), rfl, hparts, rfl⟩

/-- From a piece on, a string is read by the character that the piece starts. -/
theorem stringRest_piece {p : List Char} (hp : IsPiece p) (hparts : ∀ p ∈ parts, IsPiece p)
    {n : Nat} {before cs : Symbols}
    (hok : stringRest (n + 1) before (((p :: parts).flatten ++ ['"']).map some ++ rest) =
      .ok (cs, rest')) :
    ∃ c piece parts', SpellsChar c piece ∧ (p :: parts).flatten = (piece :: parts').flatten ∧
      (∀ p ∈ parts', IsPiece p) ∧
      stringRest n (some c :: before) ((parts'.flatten ++ ['"']).map some ++ rest) =
        .ok (cs, rest') := by
  have single {c : Char} (hc : SpellsChar c p) :
      stringRest n (some c :: before) ((parts.flatten ++ ['"']).map some ++ rest) =
        .ok (cs, rest') := by
    rw [pieces_cons, stringRest_char hc] at hok
    exact hok
  cases hp with
  | plain hc hquote hslash =>
      have hc := SpellsChar.plain hc hquote hslash
      exact ⟨_, _, parts, hc, rfl, hparts, single hc⟩
  | letter he =>
      have hc := SpellsChar.letter _ he
      exact ⟨_, _, parts, hc, rfl, hparts, single hc⟩
  | @digits m ds hm =>
      rw [pieces_cons, List.map_cons, List.cons_append, stringRest_cons, if_neg (by decide),
        if_pos rfl] at hok
      obtain ⟨c, _, hc, hok⟩ := ok_of_bind hok
      rw [List.map_cons, List.cons_append, escape_numeric] at hc
      obtain ⟨piece, parts', hpiece, hflatten, hparts', rfl⟩ := numericEscape_piece hm hparts hc
      exact ⟨c, piece, parts', hpiece, hflatten, hparts', hok⟩

/-- What is read of a string are the characters that its pieces make up. -/
theorem stringRest_pieces {n : Nat} {before cs : Symbols} (hparts : ∀ p ∈ parts, IsPiece p)
    (hok : stringRest n before ((parts.flatten ++ ['"']).map some ++ rest) = .ok (cs, rest')) :
    ∃ us pieces, List.Forall₂ SpellsChar us pieces ∧ parts.flatten = pieces.flatten ∧
      cs = before.reverse ++ us.map some ∧ rest' = rest := by
  induction n generalizing before parts with
  | zero => cases hok
  | succ n ih =>
      cases parts with
      | nil =>
          rw [List.flatten_nil, List.nil_append, List.map_singleton, List.singleton_append,
            stringRest_cons, if_pos rfl] at hok
          cases hok
          exact ⟨[], [], .nil, rfl, (List.append_nil _).symm, rfl⟩
      | cons p parts =>
          obtain ⟨hp, hparts⟩ := List.forall_mem_cons.1 hparts
          obtain ⟨c, piece, parts', hc, hflatten, hparts', hok⟩ := stringRest_piece hp hparts hok
          obtain ⟨us, pieces, hus, hpieces, rfl, rfl⟩ := ih hparts' hok
          refine ⟨c :: us, piece :: pieces, .cons hc hus, ?_, ?_, rfl⟩
          · rw [hflatten, List.flatten_cons, hpieces, List.flatten_cons]
          · simp

theorem string_ok (hparts : ∀ p ∈ parts, IsPiece p) {s : String}
    (hok : Reader.string ((parts.flatten ++ ['"']).map some ++ rest) = .ok (s, rest')) :
    SpellsString s ('"' :: (parts.flatten ++ ['"'])) ∧ rest' = rest := by
  unfold Reader.string at hok
  rw [bind_of_ok get_apply] at hok
  obtain ⟨_, _, hchars, hend⟩ := ok_of_bind hok
  obtain ⟨us, pieces, hus, hflatten, rfl, rfl⟩ := stringRest_pieces hparts hchars
  have chars : ([].reverse ++ us.map some).all Option.isSome = true := by simp
  rw [if_pos chars] at hend
  cases hend
  refine ⟨hflatten ▸ .quoted ?_, rfl⟩
  simpa using hus

theorem tracks_string (hparts : ∀ p ∈ parts, IsPiece p) :
    Tracks Reader.string (parts.flatten ++ ['"'])
      fun s => SpellsString s ('"' :: (parts.flatten ++ ['"'])) :=
  fun _ _ _ _ hok => string_ok hparts hok

end Strings

/-! ## Numbers -/

section Numbers

variable {negative : Bool} {significand : Nat} {power : Int} {text rest : Symbols}

/-- What stands behind the digits in front. -/
def afterDigits (text : Symbols) : Symbols :=
  text.dropWhile fun s => (digit? s).isSome

theorem digit?_isSome {c : Char} (hc : c.isDigit = true) : (digit? (some c)).isSome = true := by
  simp [digit?, hc]

theorem afterDigits_append (hds : ∀ c ∈ ds, c.isDigit = true) (hrest : atDigit rest = false) :
    afterDigits (ds.map some ++ rest) = rest := by
  unfold afterDigits
  rw [List.dropWhile_append_of_pos]
  · cases rest with
    | nil => rfl
    | cons s rest => exact List.dropWhile_cons_of_neg (Bool.not_eq_true _ ▸ hrest)
  · intro s hs
    obtain ⟨c, hc, rfl⟩ := List.mem_map.1 hs
    exact digit?_isSome (hds c hc)

theorem afterDigits_eq_self (h : atDigit text = false) : afterDigits text = text :=
  afterDigits_append (List.forall_mem_nil _) h

theorem drop_length_takeWhile (p : Option Char → Bool) (text : Symbols) :
    text.drop (text.takeWhile p).length = text.dropWhile p := by
  have h : (text.takeWhile p ++ text.dropWhile p).drop (text.takeWhile p).length =
      text.dropWhile p := List.drop_left
  rwa [List.takeWhile_append_dropWhile] at h

theorem skipDigits_ok (text : Symbols) : ∃ n, skipDigits text = .ok (n, afterDigits text) := by
  unfold skipDigits
  rw [bind_of_ok get_apply, bind_of_ok set_apply, drop_length_takeWhile]
  exact ⟨_, rfl⟩

theorem digitsValue_ok (text : Symbols) : ∃ n, digitsValue text = .ok (n, afterDigits text) := by
  have all : ((text.takeWhile fun s => (digit? s).isSome).filterMap digit?).length =
      (text.takeWhile fun s => (digit? s).isSome).length :=
    List.filterMap_length_eq_length.2 fun s hs =>
      List.mem_takeWhile_imp (p := fun s => (digit? s).isSome) hs
  unfold digitsValue
  rw [bind_of_ok get_apply, bind_of_ok set_apply, all, drop_length_takeWhile]
  exact ⟨_, rfl⟩

/-- Whether digits still fit into a significand makes no difference to what stands behind them. -/
theorem afterDigits_takeDigits (significand count : Nat) (text : Symbols) :
    afterDigits (takeDigits significand count text).2.2 = afterDigits text := by
  induction text generalizing significand count with
  | nil => rfl
  | cons s text ih =>
      unfold takeDigits
      split
      · rfl
      · next d hd =>
        split
        · rfl
        · rw [ih]
          refine (List.dropWhile_cons_of_pos ?_).symm
          rw [hd]
          rfl

theorem tracks_double : Tracks (double negative significand power) [] fun _ => True := by
  unfold double
  dsimp only
  refine .ite (fun _ => .pure trivial) fun _ => .ite (fun _ => ?_) fun _ => ?_
  · exact .ite (fun _ => .bad) fun _ => .pure trivial
  · exact .ite (fun _ => .pure trivial) fun _ => .bad

theorem tracks_digits (h : IsDigits ds) {f : Nat → Reader Number}
    (hf : ∀ n, Tracks (f n) [] fun _ => True) :
    Tracks (do
      let cs ← get
      if cs.isEmpty then bad .endInValue
      else if !atDigit cs then bad .badNumber
      else digitsValue >>= f) ds fun _ => True := by
  intro rest n rest' hrest hok
  obtain ⟨e, he⟩ := digitsValue_ok (ds.map some ++ rest)
  rw [afterDigits_append h.2 hrest.digit] at he
  rw [bind_of_ok get_apply] at hok
  split at hok
  · cases hok
  · split at hok
    · cases hok
    · rw [bind_of_ok he] at hok
      exact hf e hrest hok

theorem skipOne_cons (s : Option Char) (text : Symbols) : skipOne (s :: text) = .ok ((), text) :=
  rfl

theorem not_atChar_of_isDigit {c d : Char} (hc : c.isDigit = false) (hd : d.isDigit = true)
    (text : Symbols) : atChar c (some d :: text) = false := by
  refine decide_eq_false ?_
  rintro ⟨⟩
  exact Bool.false_ne_true (hc.symm.trans hd)

theorem IsDigits.exists_cons (h : IsDigits ds) : ∃ d tail, ds = d :: tail ∧ d.isDigit = true := by
  obtain ⟨hne, hds⟩ := h
  obtain ⟨d, tail, rfl⟩ := List.exists_cons_of_ne_nil hne
  exact ⟨d, tail, rfl, hds d List.mem_cons_self⟩

theorem tracks_exponentRest {e : Char} {sign : List Char} (hsign : sign ∈ [[], ['+'], ['-']])
    (h : IsDigits ds) :
    Tracks (exponentRest negative significand power) (e :: (sign ++ ds)) fun _ => True := by
  intro rest n rest' hrest hok
  have behindDigits (down : Bool) (v : Nat) : Tracks (
      if maxExponent < v then
        if significand ≠ 0 && !down then bad .numberTooLarge
        else pure (Number.double (if negative then (-0.0 : Float) else 0.0).toBits)
      else double negative significand (if down then power - v else power + v)) [] fun _ => True :=
    .ite (fun _ => .ite (fun _ => .bad) fun _ => .pure trivial) fun _ => tracks_double
  unfold exponentRest at hok
  rw [List.map_cons, List.cons_append, bind_of_ok (skipOne_cons _ _), bind_of_ok get_apply] at hok
  simp only [List.mem_cons, List.not_mem_nil, or_false] at hsign
  rcases hsign with rfl | rfl | rfl
  · obtain ⟨d, tail, rfl, hd⟩ := h.exists_cons
    have noSign : ∀ c ∈ ['+', '-'], atChar c ((d :: tail).map some ++ rest) = false := by
      have noDigit : ∀ c ∈ ['+', '-'], c.isDigit = false :=
        List.forall_iff_forall_mem.1 (by decide)
      exact fun c hc => not_atChar_of_isDigit (noDigit c hc) hd _
    rw [List.nil_append, noSign '-' (by decide), noSign '+' (by decide), if_neg (by decide)] at hok
    exact tracks_digits h (behindDigits _) hrest hok
  · rw [List.singleton_append, List.map_cons, List.cons_append, if_pos (by simp [atChar]),
      bind_of_ok (skipOne_cons _ _)] at hok
    exact tracks_digits h (behindDigits _) hrest hok
  · rw [List.singleton_append, List.map_cons, List.cons_append, if_pos (by simp [atChar]),
      bind_of_ok (skipOne_cons _ _)] at hok
    exact tracks_digits h (behindDigits _) hrest hok

theorem IsExponent.front (h : IsExponent cs) (hrest : Ends rest) :
    atDigit (cs.map some ++ rest) = false ∧ atChar '.' (cs.map some ++ rest) = false := by
  cases h with
  | none => exact ⟨hrest.digit, hrest.point⟩
  | power he _ _ =>
      have front : ∀ e ∈ ['e', 'E'], e.isDigit = false ∧ e ≠ '.' :=
        List.forall_iff_forall_mem.1 (by decide)
      obtain ⟨hdigit, hpoint⟩ := front _ he
      exact ⟨by simp [atDigit, digit?, hdigit], by simp [atChar, hpoint]⟩

/-- Where an exponent may stand, it is read if there is one. -/
theorem tracks_exponent (h : IsExponent cs) {plain : Reader Number}
    (hplain : Tracks plain [] fun _ => True) :
    Tracks (do
      let cs ← get
      if atChar 'e' cs || atChar 'E' cs then exponentRest negative significand power
      else plain) cs fun _ => True := by
  intro rest n rest' hrest hok
  rw [bind_of_ok get_apply] at hok
  cases h with
  | none =>
      rw [List.map_nil, List.nil_append, if_neg (by simp [hrest.small, hrest.capital])] at hok
      exact hplain hrest hok
  | @power e sign ds he hsign hds =>
      have mark : ∀ e ∈ ['e', 'E'], (e = 'e' || e = 'E') = true :=
        List.forall_iff_forall_mem.1 (by decide)
      rw [if_pos (by simpa [atChar] using mark e he)] at hok
      exact tracks_exponentRest hsign hds hrest hok

theorem tracks_exponent? (h : IsExponent cs) :
    Tracks (exponent? negative significand power) cs fun _ => True :=
  tracks_exponent h tracks_double

theorem tracks_fractionRest (hds : IsDigits ds) (h : IsExponent cs) :
    Tracks (fractionRest negative significand power) ('.' :: (ds ++ cs)) fun _ => True := by
  intro rest n rest' hrest hok
  unfold fractionRest at hok
  rw [List.map_cons, List.cons_append, bind_of_ok (skipOne_cons _ _), bind_of_ok get_apply,
    List.map_append, List.append_assoc] at hok
  have behind := afterDigits_takeDigits significand 0 (ds.map some ++ (cs.map some ++ rest))
  rw [afterDigits_append hds.2 (h.front hrest).1] at behind
  -- the digits that do not fit are passed over, and behind them the exponent is looked for
  generalize takeDigits significand 0 (ds.map some ++ (cs.map some ++ rest)) = taken at hok behind
  obtain ⟨further, count, left⟩ := taken
  dsimp only at hok behind
  rw [bind_of_ok set_apply] at hok
  split at hok
  · obtain ⟨k, hk⟩ := skipDigits_ok left
    have skipped : discard skipDigits left = .ok ((), cs.map some ++ rest) := by
      rw [discard_apply, hk, ← behind]
    rw [bind_of_ok skipped] at hok
    exact tracks_exponent? h hrest hok
  · next hleft =>
    rw [afterDigits_eq_self (Bool.eq_false_iff.2 hleft)] at behind
    subst behind
    split at hok
    · cases hok
    · exact tracks_exponent? h hrest hok

/-- What stands behind the whole part of a number is read as it should be. -/
theorem tracks_behindWhole {fraction exponent : List Char} (hfraction : IsFraction fraction)
    (hexponent : IsExponent exponent) {plain : Reader Number}
    (hplain : Tracks plain [] fun _ => True) :
    Tracks (do
      let cs ← get
      if atChar '.' cs then fractionRest negative significand power
      else if atChar 'e' cs || atChar 'E' cs then exponentRest negative significand power
      else plain) (fraction ++ exponent) fun _ => True := by
  intro rest n rest' hrest hok
  rw [bind_of_ok get_apply] at hok
  cases hfraction with
  | point hds =>
      rw [if_pos (by simp [atChar])] at hok
      exact tracks_fractionRest hds hexponent hrest hok
  | none =>
      rw [List.nil_append, if_neg (by simp [(hexponent.front hrest).2])] at hok
      exact tracks_exponent hexponent hplain hrest ((bind_of_ok get_apply _).trans hok)

theorem tracks_number (h : IsMagnitude cs) :
    Tracks (Reader.number negative) cs fun _ => True := by
  intro rest n rest' hrest hok
  cases h with
  | @mk whole fraction exponent hwhole hfraction hexponent =>
      have front : atDigit ((fraction ++ exponent).map some ++ rest) = false := by
        cases hfraction with
        | none => exact (hexponent.front hrest).1
        | point _ => rfl
      have behind := afterDigits_takeDigits 0 0 ((whole ++ (fraction ++ exponent)).map some ++ rest)
      rw [List.map_append, List.append_assoc, afterDigits_append hwhole.1.2 front] at behind
      unfold Reader.number at hok
      rw [bind_of_ok get_apply, List.map_append, List.append_assoc] at hok
      generalize takeDigits 0 0 (whole.map some ++ ((fraction ++ exponent).map some ++ rest)) =
        taken at hok behind
      obtain ⟨significand, count, left⟩ := taken
      dsimp only at hok behind
      obtain ⟨further, hfurther⟩ := skipDigits_ok left
      rw [behind] at hfurther
      split at hok
      · cases hok
      · split at hok
        · cases hok
        · split at hok
          · cases hok
          · rw [bind_of_ok set_apply, bind_of_ok hfurther] at hok
            refine tracks_behindWhole hfraction hexponent ?_ hrest hok
            refine .ite (fun _ => tracks_double) fun _ => .ite (fun _ => .pure trivial) fun _ => ?_
            exact .ite (fun _ => .pure trivial) fun _ => .pure trivial

end Numbers

/-! ## Words and numbers as values -/

theorem reads_skipOne (c : Char) : Reads skipOne [c] () :=
  fun _ => rfl

theorem reads_wordRest (cs : List Char) : Reads (wordRest cs) cs () := by
  induction cs with
  | nil => exact fun _ => rfl
  | cons c cs ih =>
      intro rest
      have step : wordRest (c :: cs) ((c :: cs).map some ++ rest) =
        (if some c = some c then (do set (cs.map some ++ rest); wordRest cs) else bad .noWord)
          ((c :: cs).map some ++ rest) := rfl
      rw [step, if_pos rfl, bind_of_ok set_apply]
      exact ih rest

theorem IsMagnitude.front (h : IsMagnitude cs) : ∃ d tail, cs = d :: tail ∧ d.isDigit = true := by
  cases h with
  | mk hwhole _ _ =>
      obtain ⟨d, tail, rfl, hd⟩ := hwhole.1.exists_cons
      exact ⟨d, _, rfl, hd⟩

/-- The symbols that other tokens than words and numbers start with, and white space. -/
def otherMarks : List Char :=
  ['"', '[', ']', '\x7b', '\x7d', ',', ':', ' ', '\n', '\t', '\r']

/-- A word or a number is told by its first symbol, and then read. -/
theorem tracks_scalar (h : IsScalar cs) :
    ∃ c tail, cs = c :: tail ∧ c ∉ otherMarks ∧ Tracks (scalar (some c)) cs fun _ => True := by
  cases h with
  | word h =>
      have rest (c : Char) (cs : List Char) (v : Json) :
          Tracks (do skipOne; wordRest cs; return v) (c :: cs) fun _ => True :=
        .bind (reads_skipOne c) (.of_reads ((reads_wordRest cs).bind_pure fun _ => v) trivial)
      simp only [words, List.mem_cons, List.not_mem_nil, or_false] at h
      rcases h with rfl | rfl | rfl
      · exact ⟨'n', _, rfl, by decide, rest 'n' _ .null⟩
      · exact ⟨'t', _, rfl, by decide, rest 't' _ (.bool true)⟩
      · exact ⟨'f', _, rfl, by decide, rest 'f' _ (.bool false)⟩
  | positive h =>
      obtain ⟨d, tail, rfl, hd⟩ := h.front
      have other : ∀ c ∈ 'n' :: 't' :: 'f' :: '-' :: otherMarks, c.isDigit = false :=
        List.forall_iff_forall_mem.1 (by decide)
      have ne : ∀ c ∈ 'n' :: 't' :: 'f' :: '-' :: otherMarks, some d ≠ some c := by
        rintro c hc ⟨⟩
        exact Bool.false_ne_true ((other d hc).symm.trans hd)
      refine ⟨d, tail, rfl, fun hmem => ne d (by simp [hmem]) rfl, ?_⟩
      unfold scalar
      rw [if_neg (ne 'n' (by decide)), if_neg (ne 't' (by decide)), if_neg (ne 'f' (by decide)),
        if_neg (ne '-' (by decide)), if_pos (digit?_isSome hd)]
      exact (tracks_number h).map fun _ => id
  | @negative cs h =>
      refine ⟨'-', cs, rfl, by decide, ?_⟩
      exact .bind (reads_skipOne '-') ((tracks_number h).map fun _ => id)

end NodeIdGen.Json
