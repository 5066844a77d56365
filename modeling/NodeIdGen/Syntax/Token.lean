/-!
# Tokens

The token trees of a source text. Brackets are matched here already, so a token is either a leaf or
a whole bracketed group. Names keep their spelling, `r#` included.
-/

namespace NodeIdGen.Syntax

/-- The three kinds of brackets. -/
inductive Delimiter
  | parenthesis
  | brace
  | bracket
  deriving DecidableEq, Repr

/-- Literals, kept as far as the grammar looks into them. -/
inductive Literal
  | string
  | byteString
  | cString
  | byte
  | character
  /-- A whole number: its value, and the suffix glued to it. -/
  | integer (value : Nat) (suffix : String)
  /-- A number with a point or an exponent, as it is spelled. -/
  | float (text : String)
  /-- The mark that stands for a literal which could not be rendered. -/
  | placeholder
  deriving DecidableEq, Repr

/-- Whole numbers and floats, which may follow a minus sign. -/
def Literal.isNumber : Literal → Bool
  | .integer _ _ | .float _ => true
  | _ => false

/-- A leaf of the source text, or a bracketed group of tokens. -/
inductive Token
  | ident (name : String)
  /-- A punctuation character; `joint` if the next one follows without a gap. -/
  | punct (c : Char) (joint : Bool)
  | literal (l : Literal)
  | lifetime (name : String)
  | group (d : Delimiter) (content : List Token)

mutual

/-- How many leaves and groups a token has, itself included. -/
def Token.count : Token → Nat
  | .group _ ts => 1 + countAll ts
  | _ => 1

/-- How many leaves and groups the tokens have together. -/
def countAll : List Token → Nat
  | [] => 0
  | t :: ts => t.count + countAll ts

end

end NodeIdGen.Syntax
