import Mathlib.Data.List.Forall2
import Mathlib.Data.Nat.Digits.Defs
import NodeIdGen.Json.Printer
import NodeIdGen.Json.Reader

/-!
# The texts of a value

A value of strings, arrays and objects has many texts. White space may stand in front of every
token, and a character of a string may be written as itself, behind a backslash, or by the digits of
its code point. `Spells` is the relation between a value and its texts, and the compact form is one
of them.
-/

namespace NodeIdGen.Json

open NodeIdGen.Json.Reader

/-- White space between tokens. -/
def IsGap (cs : List Char) : Prop :=
  ∀ c ∈ cs, c ∈ [' ', '\n', '\t', '\r']

theorem isGap_nil : IsGap [] :=
  List.forall_mem_nil _

/-! ## Strings -/

/-- Four hexadecimal digits, in either case, with this value. -/
def IsHex (n : Nat) (ds : List Char) : Prop :=
  ds.length = 4 ∧ ∃ vs, List.Forall₂ (fun d v => hexValue? d = some v) ds vs ∧
    vs.foldl (fun n v => 16 * n + v) 0 = n

/-- The letters that may stand behind a backslash, with the characters that they stand for. -/
def letterEscapes : List (Char × Char) :=
  [('"', '"'), ('\\', '\\'), ('/', '/'), ('b', '\x08'), ('f', '\x0c'), ('n', '\n'), ('r', '\r'),
   ('t', '\t')]

/-- The ways to write a character inside a string. Beyond 16 bits its digits are those of a
surrogate pair. -/
inductive SpellsChar (c : Char) : List Char → Prop
  | plain (hc : 0x20 ≤ c.toNat) (hquote : c ≠ '"') (hslash : c ≠ '\\') : SpellsChar c [c]
  | letter (e : Char) (h : (e, c) ∈ letterEscapes) : SpellsChar c ['\\', e]
  | digits {ds : List Char} (h : IsHex c.toNat ds) : SpellsChar c ('\\' :: 'u' :: ds)
  | pair {high low : List Char} (hc : 0x10000 ≤ c.toNat)
      (hhigh : IsHex (0xd800 + (c.toNat - 0x10000) / 0x400) high)
      (hlow : IsHex (0xdc00 + (c.toNat - 0x10000) % 0x400) low) :
      SpellsChar c ('\\' :: 'u' :: (high ++ '\\' :: 'u' :: low))

/-- The ways to write a string, in its quotes. -/
inductive SpellsString (s : String) : List Char → Prop
  | quoted {parts : List (List Char)} (h : List.Forall₂ SpellsChar s.toList parts) :
      SpellsString s ('"' :: (parts.flatten ++ ['"']))

/-! ## Arrays and objects -/

/-- Further parts, each behind a comma, and the closing bracket. -/
inductive Follows (close : Char) : List (List Char) → List Char → Prop
  | nil {w : List Char} (hw : IsGap w) : Follows close [] (w ++ [close])
  | cons {w p cs : List Char} {ps : List (List Char)} (hw : IsGap w) (h : Follows close ps cs) :
      Follows close (p :: ps) (w ++ ',' :: (p ++ cs))

/-- Parts with commas between them, and the closing bracket. -/
inductive Lists (close : Char) : List (List Char) → List Char → Prop
  | nil {w : List Char} (hw : IsGap w) : Lists close [] (w ++ [close])
  | cons {p cs : List Char} {ps : List (List Char)} (h : Follows close ps cs) :
      Lists close (p :: ps) (p ++ cs)

/-- The ways to write the name of a member, with the colon behind it. -/
inductive SpellsName (name : String) : List Char → Prop
  | mk {w k w' : List Char} (hw : IsGap w) (hk : SpellsString name k) (hw' : IsGap w') :
      SpellsName name (w ++ (k ++ (w' ++ [':'])))

/-- The texts of a value. The items of an array, and the members of an object, stand here with their
texts. -/
inductive Spells : Json → List Char → Prop
  | string {w cs : List Char} {s : String} (hw : IsGap w) (h : SpellsString s cs) :
      Spells (.string s) (w ++ cs)
  | array {w cs : List Char} {ps : List (Json × List Char)} (hw : IsGap w)
      (hvalues : ∀ p ∈ ps, Spells p.1 p.2) (h : Lists ']' (ps.map (·.2)) cs) :
      Spells (.array (ps.map (·.1))) (w ++ '[' :: cs)
  | object {w cs : List Char} {ps : List ((String × Json) × (List Char × List Char))}
      (hw : IsGap w) (hnames : ∀ p ∈ ps, SpellsName p.1.1 p.2.1)
      (hvalues : ∀ p ∈ ps, Spells p.1.2 p.2.2)
      (h : Lists '\x7d' (ps.map fun p => p.2.1 ++ p.2.2) cs) :
      Spells (.object (ps.map (·.1))) (w ++ '\x7b' :: cs)

/-- The text of a member, with its name. -/
def SpellsMember (m : String × Json) (cs : List Char) : Prop :=
  ∃ ns vs, SpellsName m.1 ns ∧ Spells m.2 vs ∧ cs = ns ++ vs

/-- The texts that hold the value and nothing else. -/
def SpellsText (v : Json) (text : String) : Prop :=
  ∃ cs w, Spells v cs ∧ IsGap w ∧ text.toList = cs ++ w

theorem spells_array_iff {vs : List Json} {cs : List Char} :
    Spells (.array vs) cs ↔ ∃ w ps body, IsGap w ∧ List.Forall₂ Spells vs ps ∧ Lists ']' ps body ∧
      cs = w ++ '[' :: body := by
  constructor
  · intro h
    cases h with
    | @array w body ps hw hvalues hlist =>
        refine ⟨w, ps.map (·.2), body, hw, ?_, hlist, rfl⟩
        rw [List.forall₂_map_left_iff, List.forall₂_map_right_iff, List.forall₂_same]
        exact hvalues
  · rintro ⟨w, ps, body, hw, hps, hlist, rfl⟩
    have pairs : ∃ qs : List (Json × List Char), (∀ q ∈ qs, Spells q.1 q.2) ∧
        qs.map (·.1) = vs ∧ qs.map (·.2) = ps := by
      clear hlist
      induction hps with
      | nil => exact ⟨[], List.forall_mem_nil _, rfl, rfl⟩
      | @cons v p _ _ hv _ ih =>
          obtain ⟨qs, hqs, rfl, rfl⟩ := ih
          exact ⟨(v, p) :: qs, List.forall_mem_cons.2 ⟨hv, hqs⟩, rfl, rfl⟩
    obtain ⟨qs, hqs, rfl, rfl⟩ := pairs
    exact .array hw hqs hlist

theorem spells_object_iff {ms : List (String × Json)} {cs : List Char} :
    Spells (.object ms) cs ↔ ∃ w ps body, IsGap w ∧ List.Forall₂ SpellsMember ms ps ∧
      Lists '\x7d' ps body ∧ cs = w ++ '\x7b' :: body := by
  constructor
  · intro h
    cases h with
    | @object w body ps hw hnames hvalues hlist =>
        refine ⟨w, ps.map fun p => p.2.1 ++ p.2.2, body, hw, ?_, hlist, rfl⟩
        rw [List.forall₂_map_left_iff, List.forall₂_map_right_iff, List.forall₂_same]
        exact fun p hp => ⟨p.2.1, p.2.2, hnames p hp, hvalues p hp, rfl⟩
  · rintro ⟨w, ps, body, hw, hps, hlist, rfl⟩
    have pairs : ∃ qs : List ((String × Json) × (List Char × List Char)),
        (∀ q ∈ qs, SpellsName q.1.1 q.2.1) ∧ (∀ q ∈ qs, Spells q.1.2 q.2.2) ∧
        qs.map (·.1) = ms ∧ (qs.map fun q => q.2.1 ++ q.2.2) = ps := by
      clear hlist
      induction hps with
      | nil => exact ⟨[], List.forall_mem_nil _, List.forall_mem_nil _, rfl, rfl⟩
      | @cons m _ _ _ hm _ ih =>
          obtain ⟨ns, vs, hname, hv, rfl⟩ := hm
          obtain ⟨qs, hnames, hvalues, rfl, rfl⟩ := ih
          exact ⟨(m, ns, vs) :: qs, List.forall_mem_cons.2 ⟨hname, hnames⟩,
            List.forall_mem_cons.2 ⟨hv, hvalues⟩, rfl, rfl⟩
    obtain ⟨qs, hnames, hvalues, rfl, rfl⟩ := pairs
    exact .object hw hnames hvalues hlist

/-! ## The compact form -/

/-- The four digits that stand for a control character. -/
def controlDigits (n : Nat) : List Char :=
  let digits := Text.hexDigits n
  List.replicate (4 - digits.length) '0' ++ digits

theorem isHex_controlDigits : ∀ n < 0x20, IsHex n (controlDigits n) := by
  have values : ∀ n < 0x20, (controlDigits n).length = 4 ∧
      List.Forall₂ (fun d v => hexValue? d = some v) (controlDigits n) [0, 0, n / 16, n % 16] := by
    decide
  intro n hn
  obtain ⟨hlen, hvalues⟩ := values n hn
  refine ⟨hlen, _, hvalues, ?_⟩
  simp only [List.foldl_cons, List.foldl_nil]
  omega

theorem spellsChar_escapedChar (c : Char) : SpellsChar c (escapedChar c) := by
  unfold escapedChar
  split
  · exact .letter '"' (by decide)
  · exact .letter '\\' (by decide)
  · exact .letter 'b' (by decide)
  · exact .letter 't' (by decide)
  · exact .letter 'n' (by decide)
  · exact .letter 'f' (by decide)
  · exact .letter 'r' (by decide)
  · next quote backslash _ _ _ _ _ =>
    dsimp only
    split
    · next hc => exact .digits (isHex_controlDigits _ hc)
    · next hc => exact .plain (Nat.le_of_not_lt hc) quote backslash

theorem spellsString_printString (s : String) : SpellsString s (printString s) := by
  have parts : List.Forall₂ SpellsChar s.toList (s.toList.map escapedChar) := by
    rw [List.forall₂_map_right_iff, List.forall₂_same]
    exact fun c _ => spellsChar_escapedChar c
  have text := SpellsString.quoted parts
  rwa [← List.flatMap_def] at text

theorem spellsName_printString (n : String) : SpellsName n (printString n ++ [':']) :=
  .mk isGap_nil (spellsString_printString n) isGap_nil

theorem follows_printItems (vs : List Json) : Follows ']' (vs.map print) (printItems vs) := by
  induction vs with
  | nil => exact .nil isGap_nil
  | cons v vs ih => exact .cons isGap_nil ih

theorem spells_print_array {vs : List Json} (h : ∀ v ∈ vs, Spells v v.print) :
    Spells (.array vs) (Json.array vs).print := by
  have list : ∃ body, Lists ']' (vs.map print) body ∧ (Json.array vs).print = '[' :: body := by
    cases vs with
    | nil => exact ⟨_, .nil isGap_nil, rfl⟩
    | cons v vs => exact ⟨_, .cons (follows_printItems vs), rfl⟩
  obtain ⟨body, hlist, htext⟩ := list
  refine spells_array_iff.2 ⟨[], vs.map print, body, isGap_nil, ?_, hlist, htext⟩
  rw [List.forall₂_map_right_iff, List.forall₂_same]
  exact h

/-- A member in the compact form. -/
def printMember (m : String × Json) : List Char :=
  printString m.1 ++ [':'] ++ m.2.print

theorem spellsMember_print {m : String × Json} (h : Spells m.2 m.2.print) :
    SpellsMember m (printMember m) :=
  ⟨_, _, spellsName_printString m.1, h, rfl⟩

theorem follows_printMembers (ms : List (String × Json)) :
    Follows '\x7d' (ms.map printMember) (printMembers ms) := by
  induction ms with
  | nil => exact .nil isGap_nil
  | cons m ms ih =>
      have step := Follows.cons (p := printMember m) isGap_nil ih
      simpa [printMember, printMembers] using step

theorem spells_print_object {ms : List (String × Json)} (h : ∀ m ∈ ms, Spells m.2 m.2.print) :
    Spells (.object ms) (Json.object ms).print := by
  have list : ∃ body, Lists '\x7d' (ms.map printMember) body ∧
      (Json.object ms).print = '\x7b' :: body := by
    cases ms with
    | nil => exact ⟨_, .nil isGap_nil, rfl⟩
    | cons m ms => exact ⟨_, .cons (follows_printMembers ms), by simp [print, printMember]⟩
  obtain ⟨body, hlist, htext⟩ := list
  refine spells_object_iff.2 ⟨[], ms.map printMember, body, isGap_nil, ?_, hlist, htext⟩
  rw [List.forall₂_map_right_iff, List.forall₂_same]
  exact fun m hm => spellsMember_print (h m hm)

/-- A value of strings, arrays and objects that nests less than so deep. -/
inductive Textual : Nat → Json → Prop
  | string (n : Nat) (s : String) : Textual (n + 1) (.string s)
  | array {n : Nat} {vs : List Json} (h : ∀ v ∈ vs, Textual (n + 1) v) :
      Textual (n + 2) (.array vs)
  | object {n : Nat} {ms : List (String × Json)} (h : ∀ m ∈ ms, Textual (n + 1) m.2) :
      Textual (n + 2) (.object ms)

theorem Textual.spells_print {n : Nat} {v : Json} (h : Textual n v) : Spells v v.print := by
  induction h with
  | string n s => exact .string isGap_nil (spellsString_printString s)
  | array h ih => exact spells_print_array ih
  | object h ih => exact spells_print_object ih

theorem Textual.spellsText_render {n : Nat} {v : Json} (h : Textual n v) :
    SpellsText v v.render :=
  ⟨v.print, [], h.spells_print, isGap_nil, by rw [render, String.toList_ofList, List.append_nil]⟩

end NodeIdGen.Json
