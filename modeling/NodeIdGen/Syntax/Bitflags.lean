import NodeIdGen.Syntax.File

/-!
# Flag blocks

The content of a `bitflags!` block: entries `struct Name: Type { const FLAG = value; ... }`, each
with attributes and a visibility, and attributes in front of each constant.
-/

namespace NodeIdGen.Syntax

open NodeIdGen.Syntax.Parser

/-- An entry of a flag block. -/
structure FlagDecl where
  attrs : List Attribute
  name : String
  /-- The names of the constants that have one. -/
  flags : List String
  deriving DecidableEq, Repr

/-- A constant; its name unless it is a placeholder. -/
def flagConstant (g : Grammar) : Parser (Option String) := do
  discard (outerAttributes g)
  word "const"
  let flag ← if ← word? "_" then pure none else some <$> name
  symbol "="
  discard (g.expr true)
  symbol ";"
  return flag

def flagDecl (g : Grammar) : Parser FlagDecl := do
  let attrs ← outerAttributes g
  discard visibility
  word "struct"
  let n ← name
  symbol ":"
  discard (g.ty true)
  let flags ← group .brace (toEnd (flagConstant g))
  return ⟨attrs, n, flags.filterMap id⟩

def flagDecls (g : Grammar) : Parser (List FlagDecl) :=
  toEnd (flagDecl g)

/-- The entries that the tokens of a block make up. -/
def parseFlags (ts : List Token) : Except Fault (List FlagDecl) :=
  parseAll flagDecls ts

end NodeIdGen.Syntax
