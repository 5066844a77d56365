import NodeIdGen.Syntax.Type

/-!
# Patterns
-/

namespace NodeIdGen.Syntax

open NodeIdGen.Syntax.Parser

/-- A bar between alternatives, and no operator made of it. -/
def atBar (ts : Rest) : Bool :=
  ts.atSymbol "|" && !ts.atSymbol "||" && !ts.atSymbol "|="

/-- A pattern with alternatives; a bar may stand in front of the first. -/
def alternatives (g : Grammar) : Parser Pat := do
  let leading ← symbol? "|"
  let first ← g.pat
  let further ← whileIs atBar do
    symbol "|"
    g.pat
  return if leading || !further.isEmpty then .other else first

/-- The end of a range without an upper bound. -/
def endsPatRange (ts : Rest) : Bool :=
  ts.isEmpty || ts.atSymbol "|" || ts.atSymbol "=" || ts.atSymbol ":" && !ts.atSymbol "::" ||
    ts.atSymbol "," || ts.atSymbol ";" || ts.atWord "if"

/-- A bound of a range: a literal, a path or a constant block; there may be none. -/
def patBound (g : Grammar) : Parser Bool := do
  let ts ← look
  if endsPatRange ts then
    return false
  else if ts.atLiteral then
    literal
    return true
  else if atTypePath ts then
    discard (qualifiedPath g .inExpr)
    return true
  else if ts.atWord "const" then
    word "const"
    discard (body g)
    return true
  else
    wanted (.oneOf
      ["literal", "identifier", "`::`", "`<`", "`self`", "`Self`", "`super`", "`crate`", "`const`"])

/-- The points of a range; the result tells whether the upper bound belongs to it. Three points
are an old spelling, which only patterns with a lower bound allow. -/
def rangePoints (three : Bool) : Parser Bool := do
  let ts ← look
  if ts.atSymbol "..=" then
    symbol "..="
    return true
  else if ts.atSymbol "..." then
    if three then
      symbol "..."
      return true
    else
      wanted (.oneOf ["`..`", "`..=`"])
  else
    symbol ".."
    return false

/-- The points and the upper bound of a range behind its lower bound. -/
def patRangeEnd (g : Grammar) : Parser Pat := do
  let closed ← rangePoints true
  let ended ← patBound g
  if closed && !ended then
    broken "expected range upper bound"
  else
    return if ended then .other else .openRange

/-- A range without a lower bound, or two points alone. -/
def patHalfRange (g : Grammar) : Parser Pat := do
  let closed ← rangePoints false
  let ended ← patBound g
  if ended then
    return .openRange
  else if closed then
    broken "expected range upper bound"
  else
    return .rest

/-- A literal or constant, or a range that starts with it. -/
def patLiteral (g : Grammar) : Parser Pat := do
  discard (patBound g)
  if ← test (·.atSymbol "..") then
    patRangeEnd g
  else
    return .other

def patList (g : Grammar) : Parser (List Pat) :=
  commaSeparated (alternatives g)

/-- The name of a part, as a projection spells it: a name or a position. -/
def member : Parser Member := do
  match ← look with
  | .ident n :: ts =>
    if isReserved n then
      broken "expected identifier or integer"
    else
      moveTo ts
      return .named n
  | .literal (.integer n suffix) :: ts =>
    if suffix = "" then
      if n < UInt32.size then
        moveTo ts
        return .index n
      else
        denied "number too large to fit in target type"
    else
      denied "expected unsuffixed integer"
  | _ => broken "expected identifier or integer"

/-- A field in the pattern of a structure. -/
def patField (g : Grammar) : Parser Unit := do
  let boxed ← word? "box"
  let byRef ← word? "ref"
  let mutable ← word? "mut"
  let marked := boxed || byRef || mutable
  let m ← if marked then Member.named <$> name else member
  let positional := match m with
    | .index _ => true
    | .named _ => false
  if positional || !marked && (← test (·.atSymbol ":")) then
    symbol ":"
    discard (alternatives g)

/-- The fields in the pattern of a structure; two points end them. -/
def patFields (g : Grammar) : Nat → Parser Unit
  | 0 => throw .exhausted
  | n + 1 => do
    if ← test (·.isEmpty) then
      return
    discard (outerAttributes g)
    if ← test (·.atSymbol "..") then
      symbol ".."
    else
      patField g
      if !(← test (·.isEmpty)) then
        symbol ","
        patFields g n

/-- A pattern that starts with a path. -/
def patPath (g : Grammar) : Parser Pat := do
  let (qualified, p) ← qualifiedPath g .inExpr
  if (← invocation? qualified p).isSome then
    return .other
  else
    let ts ← look
    if ts.atGroup .brace then
      group .brace do
        patFields g ((← look).length + 1)
      return .other
    else if ts.atGroup .parenthesis then
      discard (group .parenthesis (patList g))
      return .other
    else if ts.atSymbol ".." then
      patRangeEnd g
    else
      return .other

/-- A pattern that starts with a path, and is not just a new name, stands in front. -/
def atPatPath (ts : Rest) : Bool :=
  let second := ts.second
  ts.atName &&
      (second.atSymbol "::" || second.atSymbol "!" || second.atGroup .brace ||
        second.atGroup .parenthesis || second.atSymbol "..") ||
    ts.atWord "self" && second.atSymbol "::" || ts.atSymbol "::" || ts.atSymbol "<" ||
    ts.atAnyWord ["Self", "super", "crate"]

/-- A new name, with what it has to match. -/
def patName (g : Grammar) : Parser Pat := do
  discard (word? "ref")
  discard (word? "mut")
  if ← test (·.atWord "self") then
    discard anyWord
  else
    discard name
  if ← symbol? "@" then
    discard g.pat
  return .other

/-- One pattern without alternatives. -/
def patRule (g : Grammar) : Parser Pat := do
  let ts ← look
  if atPatPath ts then
    patPath g
  else if ts.atWord "_" then
    word "_"
    return .other
  else if ts.atWord "box" then
    word "box"
    discard g.pat
    return .other
  else if ts.atSymbol "-" || ts.atLiteral || ts.atWord "const" then
    patLiteral g
  else if ts.atAnyWord ["ref", "mut", "self"] || ts.atName then
    patName g
  else if ts.atSymbol "&" then
    symbol "&"
    discard (word? "mut")
    discard g.pat
    return .other
  else if ts.atGroup .parenthesis then
    discard (group .parenthesis (patList g))
    return .other
  else if ts.atGroup .bracket then
    let parts ← group .bracket (patList g)
    if parts.contains .openRange then
      denied "range pattern is not allowed unparenthesized inside slice pattern"
    else
      return .other
  else if ts.atSymbol ".." && !ts.atSymbol "..." then
    patHalfRange g
  else
    wanted (.oneOf
      ["identifier", "`::`", "`<`", "`_`", "literal", "`const`", "`ref`", "`mut`", "`&`",
       "parentheses", "square brackets", "`..`"])

end NodeIdGen.Syntax
