import NodeIdGen.Syntax.Item
import NodeIdGen.Syntax.Lexer

/-!
# Whole texts

Here the rules are tied together by depth of nesting, and parsers are run on whole texts. Each
rule passes at most a few others on before a token is read, so a small multiple of the number of
tokens bounds the depth.
-/

namespace NodeIdGen.Syntax

open NodeIdGen.Syntax.Parser

/-- The grammar whose parts may be nested so deep. -/
def grammar : Nat → Grammar
  | 0 => .exhausted
  | n + 1 =>
    { arguments := fun s => argumentsRule (grammar n) s
      ty := fun plus s => tyRule (grammar n) plus s
      expr := fun braces s => exprRule (grammar n) braces s
      unary := fun braces s => unaryRule (grammar n) braces s
      climb := fun braces p e s => climbRule (grammar n) braces p e s
      early := fun s => earlyRule (grammar n) s
      pat := fun s => patRule (grammar n) s
      stmts := fun s => stmtsRule (grammar n) s
      item := fun s => itemRule (grammar n) s
      useTree := fun root s => useTreeRule (grammar n) root s }

/-- A depth that no nesting in these tokens exceeds. -/
def nestingBound (ts : List Token) : Nat :=
  8 * countAll ts + 32

/-- The parser's result on all of the tokens. -/
def parseAll {α : Type} (p : Grammar → Parser α) (ts : List Token) : Except Fault α := do
  let (a, s) ← (p (grammar (nestingBound ts))).run ⟨ts, none⟩
  match s.leftover, s.rest with
  | some d, _ => throw (.leftover d)
  | none, [] => return a
  | none, _ :: _ => throw .trailing

def fileItems (g : Grammar) : Parser (List Item) := do
  discard (innerAttributes g)
  toEnd g.item

/-- The text without the line that names an interpreter. Only an attribute may start with the same
two characters. -/
def dropInterpreter (cs : List Char) : List Char :=
  match cs with
  | '#' :: '!' :: rest =>
    match skipGaps rest.length rest with
    | '[' :: _ => cs
    | _ => afterLine cs
  | _ => cs

/-- The items of a source text. -/
def parseFile (text : String) : Except Fault (List Item) :=
  match lex (dropInterpreter (dropByteOrderMark text.toList)) with
  | some ts => parseAll fileItems ts
  | none => .error .unreadable

/-- The text is one name that is not reserved, from its first to its last character. -/
def isIdentifier (text : String) : Bool :=
  match lex text.toList with
  | some [.ident n] => n = text && !isReserved n
  | _ => false

end NodeIdGen.Syntax
