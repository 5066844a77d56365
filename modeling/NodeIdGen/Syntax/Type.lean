import NodeIdGen.Syntax.Generics

/-!
# Types
-/

namespace NodeIdGen.Syntax

open NodeIdGen.Syntax.Parser

/-- How messages name what may start a type. -/
def typeStarts : List String :=
  ["`for`", "parentheses", "`fn`", "`unsafe`", "`extern`", "identifier", "`::`", "`<`", "`dyn`",
   "square brackets", "`*`", "`&`", "`!`", "`impl`", "`_`", "lifetime"]

/-- How messages name what may follow the lifetimes of a type. -/
def boundTypeStarts : List String :=
  ["identifier", "`fn`", "`unsafe`", "`extern`", "`super`", "`self`", "`Self`", "`crate`"]

/-- A plain path's macro invocation may stand in the place of a type, pattern or expression. -/
def invocation? (qualified : Bool) (p : Path) : Parser (Option Delimiter) := do
  let ts ← look
  if !qualified && ts.atSymbol "!" && !ts.atSymbol "!=" && p.isBare then
    symbol "!"
    return some (← anyGroup).1
  else
    return none

/-- The calling convention behind `extern`, if it stands here. -/
def abi? : Parser Bool := do
  if ← word? "extern" then
    if ← test Rest.atString then
      literal
    return true
  else
    return false

/-- Further bounds behind a plus, as many as there are. -/
def furtherBounds (g : Grammar) : Parser (List Bool) :=
  whileIs (·.atSymbol "+") do
    symbol "+"
    bound g false false

/-- What stands in the parentheses of a type. -/
inductive RoundContent
  /-- A type that is complete: a tuple, or bounds. -/
  | closed
  /-- A relaxed bound, which pluses may follow. -/
  | relaxed
  /-- One type. -/
  | single (t : Ty)

def roundContent (g : Grammar) : Parser RoundContent := do
  let ts ← look
  if ts.isEmpty then
    return .closed
  else if ts.atLifetime then
    objectBounds g true false false "is required for an object type"
    return .closed
  else if ts.atSymbol "?" then
    traitBound g false
    return .relaxed
  else
    let first ← g.ty true
    if ← test (·.atSymbol ",") then
      symbol ","
      discard (commaSeparated (g.ty true))
      return .closed
    else
      return .single first

/-- A type in parentheses. -/
def roundType (g : Grammar) (plus : Bool) : Parser Ty := do
  match ← group .parenthesis (roundContent g) with
  | .closed => return .other
  | .relaxed =>
    let further ← furtherBounds g
    return .bounds further.isEmpty
  | .single t =>
    let bound := match t with
      | .path _ => true
      | .bounds single => single
      | .other => false
    if plus && bound && (← test (·.atSymbol "+")) then
      discard (furtherBounds g)
      return .bounds false
    else
      return .other

/-- The end of a function type's parameters, given by three points. -/
def atVariadic (ts : Rest) : Bool :=
  ts.atSymbol "..." ||
    (ts.atName || ts.atWord "_") && ts.second.atSymbol ":" && ts.third.atSymbol "..."

/-- A parameter of a function type; the first one may be a receiver. -/
def functionTypeParam (g : Grammar) (first : Bool) : Parser Unit := do
  let ts ← look
  let mutSelf := first && ts.atWord "mut" && ts.second.atWord "self"
  if mutSelf then
    word "mut"
  let ts ← look
  let namedSelf := first && ts.atWord "self"
  let named := (ts.atName || ts.atWord "_" || namedSelf) &&
    ts.second.atSymbol ":" && !ts.second.atSymbol "::"
  if named then
    discard anyWord
    symbol ":"
  let rest ← look
  if first && !(named && namedSelf) && rest.atWord "mut" && rest.second.atWord "self" then
    word "mut"
    word "self"
  else if mutSelf && !named then
    word "self"
  else
    discard (g.ty true)

/-- The parameters of a function type from one that is not variadic on. -/
def functionTypeParams (g : Grammar) (first : Bool) : Nat → Parser Unit
  | 0 => throw .exhausted
  | n + 1 => do
    if ← test (·.isEmpty) then
      return
    discard (outerAttributes g)
    if ← test atVariadic then
      if !(← test (·.atSymbol "...")) then
        discard anyWord
        symbol ":"
      symbol "..."
      discard (symbol? ",")
    else
      functionTypeParam g first
      if !(← test (·.isEmpty)) then
        symbol ","
        functionTypeParams g false n

/-- A function type behind its lifetimes. -/
def functionType (g : Grammar) : Parser Ty := do
  discard (word? "unsafe")
  discard abi?
  word "fn"
  group .parenthesis do
    functionTypeParams g true ((← look).length + 1)
  discard (output g false)
  return .other

/-- A type that starts with a path; `binds` if lifetimes stand in front of it. -/
def pathType (g : Grammar) (plus binds : Bool) : Parser Ty := do
  let (qualified, p) ← qualifiedPath g .inType
  if qualified then
    return .other
  else if (← invocation? false p).isSome then
    return .other
  else if plus && (← test (·.atSymbol "+")) then
    symbol "+"
    if ← test (atBound false) then
      discard <| chained (bound g false false) do
        if ← symbol? "+" then
          test (atBound false)
        else
          return false
    return .bounds false
  else if binds then
    return .bounds true
  else
    return .path p

/-- A pointer type behind its star. -/
def pointerType (g : Grammar) : Parser Ty := do
  if ← test (·.atAnyWord ["const", "mut"]) then
    discard anyWord
    discard (g.ty false)
    return .other
  else
    wanted (.oneOf ["`const`", "`mut`"])

/-- What stands in the brackets of an array or slice type. -/
def arrayContent (g : Grammar) : Parser Unit := do
  discard (g.ty true)
  if ← symbol? ";" then
    discard (g.expr true)

/-- A path in a type may start here. -/
def atTypePath (ts : Rest) : Bool :=
  ts.atName || ts.atAnyWord pathWords || ts.atSymbol "::" || ts.atSymbol "<"

/-- A type; `plus` if it may be bounds joined by pluses, `binds` if lifetimes stand in front. -/
def unboundType (g : Grammar) (plus binds : Bool) : Parser Ty := do
  let ts ← look
  if ts.atGroup .parenthesis then
    roundType g plus
  else if ts.atAnyWord ["fn", "unsafe", "extern"] then
    functionType g
  else if atTypePath ts then
    pathType g plus binds
  else if ts.atWord "dyn" then
    word "dyn"
    discard (symbol? "*")
    objectBounds g plus false false "is required for an object type"
    return .other
  else if ts.atGroup .bracket then
    group .bracket (arrayContent g)
    return .other
  else if ts.atSymbol "*" then
    symbol "*"
    pointerType g
  else if ts.atSymbol "&" then
    symbol "&"
    discard lifetime?
    discard (word? "mut")
    discard (g.ty false)
    return .other
  else if ts.atSymbol "!" then
    symbol "!"
    return .other
  else if ts.atWord "impl" then
    word "impl"
    objectBounds g plus true true "must be specified"
    return .other
  else if ts.atWord "_" then
    word "_"
    return .other
  else if ts.atLifetime then
    objectBounds g true false false "is required for an object type"
    return .bounds false
  else
    wanted (.oneOf typeStarts)

def tyRule (g : Grammar) (plus : Bool) : Parser Ty := do
  if ← binder? g then
    let ts ← look
    if ts.atName || ts.atAnyWord ("fn" :: "unsafe" :: "extern" :: pathWords) then
      unboundType g plus true
    else
      wanted (.oneOf boundTypeStarts)
  else
    unboundType g plus false

end NodeIdGen.Syntax
