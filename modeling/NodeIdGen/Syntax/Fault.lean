import NodeIdGen.Syntax.Token

/-!
# What stops a parser

A fault is the cause: what was wanted and whether anything was left to read, tokens left over at the
end of a group, or a rule that goes beyond the shape of the tokens. The wording is in
`Fault.message`.

The messages of flag blocks are worded as they are printed. Where a whole source is refused, only
that it is refused is meant: the wording is near to what is printed but need not be it.
-/

namespace NodeIdGen.Syntax

/-- What a parser wanted to see. -/
inductive Wanted
  /-- A reserved or special word. -/
  | word (w : String)
  /-- One or more punctuation characters. -/
  | symbol (s : String)
  /-- A name; `found` is the reserved word that stood there instead. -/
  | name (found : Option String)
  | group (d : Delimiter)
  /-- A group with any brackets. -/
  | anyGroup
  | lifetime
  | literal
  | expression
  /-- Something else, named as it stands behind "expected". -/
  | described (text : String)
  /-- One of several things, named as in a list. -/
  | oneOf (names : List String)
  deriving DecidableEq, Repr

inductive Fault
  /-- Something was wanted; `atEnd` if nothing was left to read in the group. -/
  | unmet (w : Wanted) (atEnd : Bool)
  /-- A group was not read to its end. -/
  | leftover (d : Delimiter)
  /-- Tokens are left at the end of the text. -/
  | trailing
  /-- A rule is broken, put in words; `atEnd` as for `unmet`. -/
  | rule (text : String) (atEnd : Bool)
  /-- Some part of the text is no token, or a bracket is not matched. -/
  | unreadable
  /-- The nesting is deeper than the bound on it. -/
  | exhausted
  deriving DecidableEq, Repr

def Delimiter.name : Delimiter → String
  | .parenthesis => "parentheses"
  | .brace => "curly braces"
  | .bracket => "square brackets"

def Delimiter.closing : Delimiter → String
  | .parenthesis => ")"
  | .brace => "\x7d"
  | .bracket => "]"

/-- Words or punctuation as they stand in messages. -/
def ticked (s : String) : String :=
  "`" ++ s ++ "`"

def Wanted.message : Wanted → String
  | .word w => "expected " ++ ticked w
  | .symbol s => "expected " ++ ticked s
  | .name none => "expected identifier"
  | .name (some w) => "expected identifier, found keyword " ++ ticked w
  | .group d => "expected " ++ d.name
  | .anyGroup => "expected delimiter"
  | .lifetime => "expected lifetime"
  | .literal => "expected literal"
  | .expression => "expected an expression"
  | .described text => "expected " ++ text
  | .oneOf [] => "unexpected token"
  | .oneOf [a] => "expected " ++ a
  | .oneOf [a, b] => "expected " ++ a ++ " or " ++ b
  | .oneOf names => "expected one of: " ++ ", ".intercalate names

/-- A message told apart by whether the group had ended. -/
def endMark (atEnd : Bool) (text : String) : String :=
  if atEnd then "unexpected end of input, " ++ text else text

/-- The fault in words. Wanted punctuation reads the same at the end of a group as before it. -/
def Fault.message : Fault → String
  | .unmet (.symbol s) _ => (Wanted.symbol s).message
  | .unmet (.oneOf []) true => "unexpected end of input"
  | .unmet w atEnd => endMark atEnd w.message
  | .leftover d => "unexpected token, expected " ++ ticked d.closing
  | .trailing => "unexpected token"
  | .rule text atEnd => endMark atEnd text
  | .unreadable => "cannot parse string into token stream"
  | .exhausted => "nested too deeply"

end NodeIdGen.Syntax
