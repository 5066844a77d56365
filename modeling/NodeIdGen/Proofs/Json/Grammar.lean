import NodeIdGen.Proofs.Json.Spelling

/-!
# The grammar of JSON

A text is JSON by its form alone: a number may be too large and an escape may be half a surrogate
pair. What such a text consists of is a `Tree`, which keeps its tokens as they are written, and
`Tree.SpelledText` relates the tree to its texts. What a string in the tree stands for is told by
`SpellsString`; where a surrogate is alone, it stands for nothing.
-/

namespace NodeIdGen.Json

open NodeIdGen.Json.Reader

/-! ## Tokens -/

/-- A character of a string as it is written, or half of one. -/
inductive IsPiece : List Char → Prop
  | plain {c : Char} (hc : 0x20 ≤ c.toNat) (hquote : c ≠ '"') (hslash : c ≠ '\\') : IsPiece [c]
  | letter {e c : Char} (h : (e, c) ∈ letterEscapes) : IsPiece ['\\', e]
  | digits {n : Nat} {ds : List Char} (h : IsHex n ds) : IsPiece ('\\' :: 'u' :: ds)

/-- A string in its quotes. -/
inductive IsString : List Char → Prop
  | quoted {parts : List (List Char)} (h : ∀ p ∈ parts, IsPiece p) :
      IsString ('"' :: (parts.flatten ++ ['"']))

theorem exists_pieces {us : List Char} {parts : List (List Char)}
    (h : List.Forall₂ SpellsChar us parts) :
    ∃ pieces : List (List Char), (∀ p ∈ pieces, IsPiece p) ∧ parts.flatten = pieces.flatten := by
  induction h with
  | nil => exact ⟨[], List.forall_mem_nil _, rfl⟩
  | cons hc _ ih =>
      obtain ⟨pieces, hpieces, hflatten⟩ := ih
      have more {p : List Char} (hp : IsPiece p) := List.forall_mem_cons.2 ⟨hp, hpieces⟩
      cases hc with
      | plain hc hquote hslash => exact ⟨_, more (.plain hc hquote hslash), by simp [hflatten]⟩
      | letter e he => exact ⟨_, more (.letter he), by simp [hflatten]⟩
      | digits hds => exact ⟨_, more (.digits hds), by simp [hflatten]⟩
      | pair _ hhigh hlow =>
          have both := List.forall_mem_cons.2 ⟨IsPiece.digits hhigh, more (.digits hlow)⟩
          exact ⟨_, both, by simp [hflatten]⟩

theorem SpellsString.isString {s : String} {cs : List Char} (h : SpellsString s cs) :
    IsString cs := by
  cases h with
  | quoted h =>
      obtain ⟨pieces, hpieces, hflatten⟩ := exists_pieces h
      rw [hflatten]
      exact .quoted hpieces

/-- Digits, at least one. -/
def IsDigits (cs : List Char) : Prop :=
  cs ≠ [] ∧ ∀ c ∈ cs, c.isDigit = true

/-- The digits of a whole number; only zero starts with a zero. -/
def IsWhole (cs : List Char) : Prop :=
  IsDigits cs ∧ (cs.head? = some '0' → cs = ['0'])

/-- The fraction of a number, if there is one. -/
inductive IsFraction : List Char → Prop
  | none : IsFraction []
  | point {ds : List Char} (h : IsDigits ds) : IsFraction ('.' :: ds)

/-- The exponent of a number, if there is one. -/
inductive IsExponent : List Char → Prop
  | none : IsExponent []
  | power {e : Char} {sign ds : List Char} (he : e ∈ ['e', 'E']) (hsign : sign ∈ [[], ['+'], ['-']])
      (h : IsDigits ds) : IsExponent (e :: (sign ++ ds))

/-- A number without its sign. -/
inductive IsMagnitude : List Char → Prop
  | mk {whole fraction exponent : List Char} (hwhole : IsWhole whole)
      (hfraction : IsFraction fraction) (hexponent : IsExponent exponent) :
      IsMagnitude (whole ++ (fraction ++ exponent))

/-- The words that are values. -/
def words : List (List Char) :=
  [['n', 'u', 'l', 'l'], ['t', 'r', 'u', 'e'], ['f', 'a', 'l', 's', 'e']]

/-- A value that is a word or a number. -/
inductive IsScalar : List Char → Prop
  | word {cs : List Char} (h : cs ∈ words) : IsScalar cs
  | positive {cs : List Char} (h : IsMagnitude cs) : IsScalar cs
  | negative {cs : List Char} (h : IsMagnitude cs) : IsScalar ('-' :: cs)

/-! ## Trees -/

/-- What a text consists of. Words, numbers, strings and the names of members stand here as they are
written. -/
inductive Tree
  | scalar (token : List Char)
  | string (token : List Char)
  | array (items : List Tree)
  | object (members : List (List Char × Tree))

/-- The name of a member as it is written, with the colon behind it. -/
inductive SpelledName (token : List Char) : List Char → Prop
  | mk {w w' : List Char} (hw : IsGap w) (h : IsString token) (hw' : IsGap w') :
      SpelledName token (w ++ (token ++ (w' ++ [':'])))

namespace Tree

/-- The texts of a tree. The items of an array, and the members of an object, stand here with their
texts. -/
inductive Spelled : Tree → List Char → Prop
  | scalar {w cs : List Char} (hw : IsGap w) (h : IsScalar cs) : Spelled (.scalar cs) (w ++ cs)
  | string {w cs : List Char} (hw : IsGap w) (h : IsString cs) : Spelled (.string cs) (w ++ cs)
  | array {w cs : List Char} {ps : List (Tree × List Char)} (hw : IsGap w)
      (hitems : ∀ p ∈ ps, Spelled p.1 p.2) (h : Lists ']' (ps.map (·.2)) cs) :
      Spelled (.array (ps.map (·.1))) (w ++ '[' :: cs)
  | object {w cs : List Char} {ps : List ((List Char × Tree) × (List Char × List Char))}
      (hw : IsGap w) (hnames : ∀ p ∈ ps, SpelledName p.1.1 p.2.1)
      (hvalues : ∀ p ∈ ps, Spelled p.1.2 p.2.2)
      (h : Lists '\x7d' (ps.map fun p => p.2.1 ++ p.2.2) cs) :
      Spelled (.object (ps.map (·.1))) (w ++ '\x7b' :: cs)

/-- The texts that hold the tree and nothing else. -/
def SpelledText (t : Tree) (text : String) : Prop :=
  ∃ cs w, t.Spelled cs ∧ IsGap w ∧ text.toList = cs ++ w

/-- What reading a tree may give: strings and names are what they stand for. Of words and numbers
nothing is said here. -/
inductive Denotes : Tree → Json → Prop
  | scalar (cs : List Char) (v : Json) : Denotes (.scalar cs) v
  | string {cs : List Char} {s : String} (h : SpellsString s cs) : Denotes (.string cs) (.string s)
  | array {ts : List Tree} {vs : List Json} (h : List.Forall₂ Denotes ts vs) :
      Denotes (.array ts) (.array vs)
  | object {ms : List (List Char × Tree)} {vs : List (String × Json)}
      (hnames : List.Forall₂ (fun m v => SpellsString v.1 m.1) ms vs)
      (hvalues : List.Forall₂ (fun m v => Denotes m.2 v.2) ms vs) :
      Denotes (.object ms) (.object vs)

end Tree

end NodeIdGen.Json
