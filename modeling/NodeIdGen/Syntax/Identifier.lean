import NodeIdGen.Text.IdentifierStart
import NodeIdGen.Text.IdentifierContinue

/-!
# Identifiers

Which characters make up a word, which words are reserved, and how a word with or without the `r#`
mark is cut off the front of a text. `mem_word` says that a cut word is made of word characters.
-/

namespace NodeIdGen.Syntax

open NodeIdGen.Text

/-- An underscore, or a character with the property `XID_Start`. -/
def isIdentStart (c : Char) : Bool :=
  c == '_' || c.isAlpha || (0x80 ≤ c.toNat && identifierStartRanges.holds c.toNat)

/-- A character with the property `XID_Continue`. -/
def isIdentContinue (c : Char) : Bool :=
  c == '_' || c.isAlphanum || (0x80 ≤ c.toNat && identifierContinueRanges.holds c.toNat)

/-- The words that cannot name anything unless they are written with `r#`. -/
def reservedWords : List String :=
  ["_", "abstract", "as", "async", "await", "become", "box", "break", "const", "continue", "crate",
   "do", "dyn", "else", "enum", "extern", "false", "final", "fn", "for", "if", "impl", "in", "let",
   "loop", "macro", "match", "mod", "move", "mut", "override", "priv", "pub", "ref", "return",
   "Self", "self", "static", "struct", "super", "trait", "true", "try", "type", "typeof", "unsafe",
   "unsized", "use", "virtual", "where", "while", "yield"]

def isReserved (w : String) : Bool :=
  reservedWords.contains w

/-- The words that stay reserved even behind `r#`. -/
def rawReservedWords : List String :=
  ["_", "super", "self", "Self", "crate"]

/-- The longest word at the front, and the rest. -/
def leadingWord? : List Char → Option (List Char × List Char)
  | [] => none
  | c :: cs =>
    if isIdentStart c then
      some (c :: cs.takeWhile isIdentContinue, cs.dropWhile isIdentContinue)
    else
      none

/-- A word at the front with or without `r#`, as it is spelled, and the rest. -/
def spelledWord? : List Char → Option (String × List Char)
  | 'r' :: '#' :: cs =>
    match leadingWord? cs with
    | some (w, rest) =>
      if rawReservedWords.contains (String.ofList w) then none
      else some (String.ofList ('r' :: '#' :: w), rest)
    | none => none
  | cs => (leadingWord? cs).map fun (w, rest) => (String.ofList w, rest)

theorem leadingWord?_append {cs w rest : List Char} (h : leadingWord? cs = some (w, rest)) :
    w ++ rest = cs := by
  cases cs with
  | nil => simp [leadingWord?] at h
  | cons c cs =>
    simp only [leadingWord?] at h
    split at h
    · obtain ⟨rfl, rfl⟩ := Prod.mk.inj (Option.some.inj h)
      simp [List.takeWhile_append_dropWhile]
    · simp at h

theorem mem_word {cs w rest : List Char} (h : leadingWord? cs = some (w, rest)) :
    ∃ c tail, w = c :: tail ∧ isIdentStart c = true ∧ ∀ d ∈ tail, isIdentContinue d = true := by
  cases cs with
  | nil => simp [leadingWord?] at h
  | cons c cs =>
    simp only [leadingWord?] at h
    split at h
    · next hc =>
      obtain ⟨rfl, rfl⟩ := Prod.mk.inj (Option.some.inj h)
      refine ⟨c, _, rfl, hc, ?_⟩
      intro d hd
      have := List.all_takeWhile (p := isIdentContinue) (l := cs)
      exact List.all_eq_true.1 this d hd
    · simp at h

end NodeIdGen.Syntax
