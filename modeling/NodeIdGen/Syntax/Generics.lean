import NodeIdGen.Syntax.Bound

/-!
# Generic arguments, generic parameters and `where` clauses
-/

namespace NodeIdGen.Syntax

open NodeIdGen.Syntax.Parser

/-- The braces of a block that may start with attributes about it, and the statements in them. -/
def body (g : Grammar) : Parser (List Stmt) :=
  group .brace do
    discard (innerAttributes g)
    g.stmts

/-- A constant in the place of a generic argument. -/
def constArgument (g : Grammar) : Parser Unit := do
  let ts ← look
  if ts.atLiteral then
    literal
  else if ts.atName then
    discard name
  else if ts.atGroup .brace then
    discard (body g)
  else
    wanted (.oneOf [])

/-- A constant that cannot be taken for a type stands in front. -/
def atConstArgument (ts : Rest) : Bool :=
  ts.atLiteral || ts.atGroup .brace

/-- The path is one name, perhaps with angle brackets: it can be an associated item. -/
def Path.isAssociated (p : Path) : Bool :=
  !p.rooted && p.segments.length == 1 && p.segments.all (·.arguments ≠ .round)

/-- What may follow the name of an associated item: its value or its bounds. -/
def associated? (g : Grammar) : Parser Unit := do
  if ← symbol? "=" then
    if ← test atConstArgument then
      constArgument g
    else
      discard (g.ty true)
  else if ← symbol? ":" then
    bounds g (·.atAnySymbol [",", ">"])

def genericArgument (g : Grammar) : Parser Unit := do
  let ts ← look
  if ts.atLifetime && !ts.second.atSymbol "+" then
    discard lifetime
  else if atConstArgument ts then
    constArgument g
  else
    match ← g.ty true with
    | .path p => if p.isAssociated then associated? g
    | _ => return

/-- The arguments of a path, in angle brackets; the result tells whether there are any. -/
def argumentsRule (g : Grammar) : Parser Bool := do
  symbol "<"
  let args ← separated (·.atSymbol ">") "," (genericArgument g)
  symbol ">"
  return !args.isEmpty

/-- The bounds of a lifetime, which are lifetimes. -/
def lifetimeBounds (stop : Rest → Bool) : Parser Unit :=
  discard (joined stop lifetime)

/-- The end of the bounds of a generic parameter. -/
def endsParameter (ts : Rest) : Bool :=
  ts.isEmpty || ts.atAnySymbol [",", ">", "="]

/-- A generic parameter: a lifetime, a type or a constant. -/
def genericParameter (g : Grammar) : Parser Unit := do
  discard (outerAttributes g)
  let ts ← look
  if ts.atLifetime then
    discard lifetime
    if ← symbol? ":" then
      lifetimeBounds fun ts => ts.isEmpty || ts.atAnySymbol [",", ">"]
  else if ts.atName then
    discard name
    if ← symbol? ":" then
      bounds g endsParameter
    if ← symbol? "=" then
      discard (g.ty true)
  else if ts.atWord "const" then
    word "const"
    discard name
    symbol ":"
    discard (g.ty true)
    if ← symbol? "=" then
      constArgument g
  else if ts.atWord "_" then
    word "_"
  else
    wanted (.oneOf ["lifetime", "identifier", "`const`"])

/-- The number of generic parameters, if their brackets stand here. -/
def generics? (g : Grammar) : Parser (Option Nat) := do
  if ← symbol? "<" then
    let params ← separated (·.atSymbol ">") "," (genericParameter g)
    symbol ">"
    return some params.length
  else
    return none

/-- Whether there are generic parameters. -/
def generics (g : Grammar) : Parser Bool := do
  return (← generics? g).any (0 < ·)

/-- An angle bracket in front opens generic parameters and not a qualified path. -/
def opensGenerics (ts : Rest) : Bool :=
  let second := ts.second
  let third := ts.third
  ts.atSymbol "<" &&
    (second.atSymbol ">" || second.atSymbol "#" ||
      (second.atLifetime || second.atName) &&
        (third.atSymbol ">" || third.atSymbol "," ||
          third.atSymbol ":" && !third.atSymbol "::" || third.atSymbol "=") ||
      second.atWord "const")

/-- The end of a `where` clause, or of a part of it. -/
def endsWhere (ts : Rest) : Bool :=
  ts.isEmpty || ts.atGroup .brace || ts.atSymbol "," || ts.atSymbol ";" ||
    ts.atSymbol ":" && !ts.atSymbol "::" || ts.atSymbol "="

/-- One condition of a `where` clause. -/
def wherePredicate (g : Grammar) : Parser Unit := do
  let ts ← look
  if ts.atLifetime && ts.second.atSymbol ":" then
    discard lifetime
    symbol ":"
    lifetimeBounds fun ts => endsWhere ts || ts.atSymbol ":"
  else
    discard (binder? g)
    discard (g.ty true)
    symbol ":"
    bounds g endsWhere

/-- A `where` clause, if it stands here; the result tells whether it does. -/
def whereClause (g : Grammar) : Parser Bool := do
  if ← word? "where" then
    if ← test opensGenerics then
      broken "generic parameters on `where` clauses are reserved for future use"
    if ← test endsWhere then
      return true
    else
      discard <| chained (wherePredicate g) do
        if ← symbol? "," then
          return !(← test endsWhere)
        else
          return false
      return true
  else
    return false

end NodeIdGen.Syntax
