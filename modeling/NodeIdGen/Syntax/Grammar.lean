import NodeIdGen.Syntax.Parser

/-!
# The mutually dependent rules

Types, expressions, patterns, statements and items refer to each other. `Grammar` collects the
parsers that other rules call, so that each rule is a plain definition over a `Grammar`; the knot is
tied at the end, by depth of nesting.
-/

namespace NodeIdGen.Syntax

/-- How tightly an operator binds, from the loosest to the tightest. -/
inductive Precedence
  | jump
  | assign
  | range
  | or
  | and
  | compare
  | bitOr
  | bitXor
  | bitAnd
  | shift
  | sum
  | product
  | cast
  deriving DecidableEq, Repr

/-- The place in the order of precedences. -/
def Precedence.level : Precedence → Nat
  | .jump => 0
  | .assign => 1
  | .range => 2
  | .or => 3
  | .and => 4
  | .compare => 5
  | .bitOr => 6
  | .bitXor => 7
  | .bitAnd => 8
  | .shift => 9
  | .sum => 10
  | .product => 11
  | .cast => 12

/-- The parsers that rules call for the parts they nest. -/
structure Grammar where
  /-- The arguments of a path, in angle brackets; the result tells whether there are any. -/
  arguments : Parser Bool
  /-- A type; the flag allows bounds joined by pluses. -/
  ty : Bool → Parser Ty
  /-- An expression; the flag allows a path to be followed by the braces of a structure. -/
  expr : Bool → Parser Expr
  /-- An expression without binary operators; the flag as for `expr`. -/
  unary : Bool → Parser Expr
  /-- The operators that bind at least so tightly, behind a left-hand side. -/
  climb : Bool → Precedence → Expr → Parser Expr
  /-- An expression in the place of a statement, where a block ends it. -/
  early : Parser Expr
  /-- One pattern without alternatives. -/
  pat : Parser Pat
  /-- The statements of a block, to the end of the group. -/
  stmts : Parser (List Stmt)
  /-- An item. -/
  item : Parser Item
  /-- The tree of names behind `use`; the flag allows `::` in front, the result tells that there was
  none. -/
  useTree : Bool → Parser Bool

/-- The grammar in which no part may be nested any more. -/
def Grammar.exhausted : Grammar where
  arguments := throw .exhausted
  ty _ := throw .exhausted
  expr _ := throw .exhausted
  unary _ := throw .exhausted
  climb _ _ _ := throw .exhausted
  early := throw .exhausted
  pat := throw .exhausted
  stmts := throw .exhausted
  item := throw .exhausted
  useTree _ := throw .exhausted

end NodeIdGen.Syntax
