import NodeIdGen.Syntax.Literal
import NodeIdGen.Text.Blank

/-!
# From text to tokens

`lex` turns a source text into its token trees, or fails if some part of it is no token or a
bracket is not matched. White space and comments are dropped; a documentation comment becomes the
attribute `#[doc = "..."]`. Every step takes at least one character, so the number of characters
bounds the number of steps.
-/

namespace NodeIdGen.Syntax

open NodeIdGen.Text

/-! ## White space and comments -/

/-- White space between tokens: the Unicode property and the two direction marks. -/
def isGap (c : Char) : Bool :=
  isBlank c || c == '\u200e' || c == '\u200f'

/-- The text behind a block comment, in which comments nest; `depth` are open. -/
def blockCommentEnd? (depth : Nat) : Scanner
  | '/' :: '*' :: cs => blockCommentEnd? (depth + 1) cs
  | '*' :: '/' :: cs => if depth ≤ 1 then some cs else blockCommentEnd? (depth - 1) cs
  | _ :: cs => blockCommentEnd? depth cs
  | [] => none

/-- The text from the end of the line on. -/
def afterLine (cs : List Char) : List Char :=
  cs.dropWhile (· ≠ '\n')

/-- A comment without documentation, of either form. -/
def comment? : Scanner
  | '/' :: '/' :: '/' :: '/' :: cs => some (afterLine cs)
  | '/' :: '/' :: '/' :: _ => none
  | '/' :: '/' :: '!' :: _ => none
  | '/' :: '/' :: cs => some (afterLine cs)
  | '/' :: '*' :: '*' :: '/' :: cs => some cs
  | '/' :: '*' :: '*' :: '*' :: cs => blockCommentEnd? 1 ('*' :: '*' :: cs)
  | '/' :: '*' :: '*' :: _ => none
  | '/' :: '*' :: '!' :: _ => none
  | '/' :: '*' :: cs => blockCommentEnd? 1 cs
  | _ => none

/-- One blank or one comment. -/
def gap? (cs : List Char) : Option (List Char) :=
  match cs with
  | [] => none
  | c :: rest => if isGap c then some rest else comment? cs

/-- All blanks and comments at the front are skipped. The first argument bounds the steps. -/
def skipGaps : Nat → List Char → List Char
  | 0, cs => cs
  | n + 1, cs =>
    match gap? cs with
    | some rest => skipGaps n rest
    | none => cs

/-- A carriage return that no line feed follows. -/
def hasLoneReturn : List Char → Bool
  | '\r' :: '\n' :: cs => hasLoneReturn cs
  | '\r' :: _ => true
  | _ :: cs => hasLoneReturn cs
  | [] => false

/-- A carriage return in the first line that does not belong to the line's end. -/
def lineHasLoneReturn : List Char → Bool
  | '\r' :: '\n' :: _ => false
  | '\r' :: _ => true
  | '\n' :: _ => false
  | _ :: cs => lineHasLoneReturn cs
  | [] => false

/-- A documentation comment on one line, behind its mark. -/
def lineDoc? (cs : List Char) : Option (List Char) :=
  if lineHasLoneReturn cs then none else some (afterLine cs)

/-- A documentation comment in block form, behind its mark. -/
def blockDoc? (cs : List Char) : Option (List Char) :=
  match blockCommentEnd? 1 cs with
  | some rest =>
    if hasLoneReturn (cs.take (cs.length - rest.length - 2)) then none else some rest
  | none => none

/-- A documentation comment: whether it is about what encloses it, and the rest. -/
def docComment? : List Char → Option (Bool × List Char)
  | '/' :: '/' :: '!' :: cs => (lineDoc? cs).map (true, ·)
  | '/' :: '*' :: '!' :: cs => (blockDoc? cs).map (true, ·)
  | '/' :: '/' :: '/' :: '/' :: _ => none
  | '/' :: '/' :: '/' :: cs => (lineDoc? cs).map (false, ·)
  | '/' :: '*' :: '*' :: '*' :: _ => none
  | '/' :: '*' :: '*' :: cs => (blockDoc? cs).map (false, ·)
  | _ => none

/-- The attribute that a documentation comment stands for, last token first. -/
def docTokens (inner : Bool) : List Token :=
  .group .bracket [.ident "doc", .punct '=' false, .literal .string] ::
    (if inner then [.punct '!' false, .punct '#' false] else [.punct '#' false])

/-! ## Leaves -/

def symbolChars : List Char :=
  ['~', '!', '@', '#', '$', '%', '^', '&', '*', '-', '=', '+', '|', ';', ':', ',', '<', '.', '>',
   '/', '?', '\'']

/-- A punctuation character stands at the front, and no comment. -/
def atSymbolChar : List Char → Bool
  | '/' :: '/' :: _ => false
  | '/' :: '*' :: _ => false
  | c :: _ => symbolChars.contains c
  | [] => false

/-- The marks of literals, which no identifier may start with. -/
def literalMarks : List (List Char) :=
  [['r', '"'], ['r', '#', '"'], ['r', '#', '#'], ['b', '"'], ['b', '\''], ['b', 'r', '"'],
   ['b', 'r', '#'], ['c', '"'], ['c', 'r', '"'], ['c', 'r', '#']]

/-- An identifier at the front, as it is spelled, and the rest. -/
def ident? (cs : List Char) : Option (String × List Char) :=
  if literalMarks.any (·.isPrefixOf cs) then none else spelledWord? cs

/-- A lifetime behind its tick; a tick before a literal's mark stands alone. -/
def tick? (cs : List Char) : Option (Token × List Char) :=
  match spelledWord? cs with
  | none => none
  | some (_, rest) =>
    let closed := match rest with
      | '\'' :: _ => true
      | '#' :: _ => !(['r', '#'].isPrefixOf cs)
      | _ => false
    if closed then none
    else
      match ident? cs with
      | some (name, rest) => some (.lifetime name, rest)
      | none => some (.punct '\'' true, cs)

/-- A punctuation character, or a lifetime. -/
def punct? (cs : List Char) : Option (Token × List Char) :=
  match cs with
  | [] => none
  | c :: rest =>
    if atSymbolChar cs then
      if c = '\'' then tick? rest else some (.punct c (atSymbolChar rest), rest)
    else none

def leaf? (cs : List Char) : Option (Token × List Char) :=
  (literal? cs).map (fun (l, rest) => (.literal l, rest)) <|>
    punct? cs <|>
    (ident? cs).map (fun (name, rest) => (.ident name, rest))

/-! ## Groups -/

/-- The spelling of the placeholder literal. -/
def placeholderText : List Char :=
  ['(', '/', '*', 'E', 'R', 'R', 'O', 'R', '*', '/', ')']

def opening? : Char → Option Delimiter
  | '(' => some .parenthesis
  | '[' => some .bracket
  | '{' => some .brace
  | _ => none

def closing? : Char → Option Delimiter
  | ')' => some .parenthesis
  | ']' => some .bracket
  | '}' => some .brace
  | _ => none

/-- The work of the lexer in the middle of a text: the tokens of the innermost open group, and for
each open group its bracket with the tokens before it, all last first. -/
structure Frames where
  done : List Token
  outer : List (Delimiter × List Token)

namespace Frames

def start : Frames := ⟨[], []⟩

def push (f : Frames) (t : Token) : Frames :=
  { f with done := t :: f.done }

def openGroup (f : Frames) (d : Delimiter) : Frames :=
  ⟨[], (d, f.done) :: f.outer⟩

/-- The innermost group is closed, by the bracket that fits. -/
def closeGroup? (f : Frames) (d : Delimiter) : Option Frames :=
  match f.outer with
  | (o, before) :: outer =>
    if o = d then some ⟨.group d f.done.reverse :: before, outer⟩ else none
  | [] => none

/-- The tokens of the whole text, if no group is open. -/
def finish? (f : Frames) : Option (List Token) :=
  match f.outer with
  | [] => some f.done.reverse
  | _ :: _ => none

end Frames

/-- One blank, comment, bracket or leaf. -/
def step? (f : Frames) (c : Char) (rest : List Char) : Option (Frames × List Char) :=
  let cs := c :: rest
  match gap? cs with
  | some rest => some (f, rest)
  | none =>
    match docComment? cs with
    | some (inner, rest) => some ({ f with done := docTokens inner ++ f.done }, rest)
    | none =>
      if placeholderText.isPrefixOf cs then
        some (f.push (.literal .placeholder), cs.drop placeholderText.length)
      else
        match opening? c, closing? c with
        | some d, _ => some (f.openGroup d, rest)
        | none, some d => (f.closeGroup? d).map (·, rest)
        | none, none => (leaf? cs).map fun (t, rest) => (f.push t, rest)

/-- Steps to the end of the text. The first argument bounds the steps. -/
def scan? : Nat → Frames → List Char → Option (List Token)
  | _, f, [] => f.finish?
  | 0, _, _ :: _ => none
  | n + 1, f, c :: cs =>
    match step? f c cs with
    | some (f, rest) => scan? n f rest
    | none => none

/-- The text without a byte-order mark at its start. -/
def dropByteOrderMark : List Char → List Char
  | '\ufeff' :: cs => cs
  | cs => cs

/-- The tokens of a text. -/
def lex (cs : List Char) : Option (List Token) :=
  let cs := dropByteOrderMark cs
  scan? cs.length .start cs

end NodeIdGen.Syntax
