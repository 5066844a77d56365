import NodeIdGen.Syntax.Attribute

/-!
# Paths with arguments, and bounds

A path in a type may be followed by angle brackets at once, a path in an expression only behind
`::`. Parentheses as arguments belong to the paths of bounds alone.
-/

namespace NodeIdGen.Syntax

open NodeIdGen.Syntax.Parser

/-- Whether a path stands in a type or in an expression. -/
inductive PathStyle
  | inType
  | inExpr
  deriving DecidableEq, Repr

/-- The opening bracket of generic arguments, and not a comparison or shift with `=`. -/
def atAngle (ts : Rest) : Bool :=
  ts.atSymbol "<" && !ts.atSymbol "<=" && !ts.atSymbol "<<="

def segment (g : Grammar) (style : PathStyle) : Parser Segment := do
  if ← test (·.atAnyWord ["super", "self", "crate", "try"]) then
    return ⟨← anyWord, .absent⟩
  else
    let n ← if ← test (·.atWord "Self") then anyWord else name
    let ts ← look
    if style = .inType && atAngle ts || ts.atSymbol "::" && ts.third.atSymbol "<" then
      discard (symbol? "::")
      return ⟨n, .angle (← g.arguments)⟩
    else
      return ⟨n, .absent⟩

/-- A path that no qualified self type precedes. -/
def path (g : Grammar) (style : PathStyle) : Parser Path := do
  let rooted ← symbol? "::"
  let segments ← chained (segment g style) do
    let ts ← look
    if ts.atSymbol "::" && !ts.third.atGroup .parenthesis then
      symbol "::"
      return true
    else
      return false
  return ⟨rooted, segments⟩

/-- A path that may start with a qualified self type, which the result tells. -/
def qualifiedPath (g : Grammar) (style : PathStyle) : Parser (Bool × Path) := do
  if ← symbol? "<" then
    discard (g.ty true)
    if ← word? "as" then
      discard (path g .inType)
    symbol ">"
    symbol "::"
    let segments ← chained (segment g style) (symbol? "::")
    return (true, ⟨false, segments⟩)
  else
    return (false, ← path g style)

/-- The result type of a function, if one is given; the flag allows bounds joined by pluses. -/
def output (g : Grammar) (plus : Bool) : Parser (Option Ty) := do
  if ← symbol? "->" then
    some <$> g.ty plus
  else
    return none

/-- The lifetimes that `for` introduces, if it stands here. -/
def binder? (g : Grammar) : Parser Bool := do
  if ← word? "for" then
    symbol "<"
    discard <| separated (·.atSymbol ">") "," do
      discard (outerAttributes g)
      lifetime
    symbol ">"
    return true
  else
    return false

/-- The parameters that `use<...>` captures. -/
def capture : Parser Unit := do
  word "use"
  symbol "<"
  discard <| separated (·.atSymbol ">") "," do
    let ts ← look
    if ts.atLifetime then
      discard lifetime
    else if ts.atName || ts.atWord "Self" then
      discard anyWord
    else
      wanted (.oneOf ["lifetime", "identifier", "`>`"])
  symbol ">"

/-- The arguments of a function trait, if they stand here and no others do. -/
def roundArguments? (g : Grammar) (p : Path) : Parser Unit := do
  let ts ← look
  let none := p.segments.getLast?.any fun s =>
    s.arguments = .absent || s.arguments = .angle false
  if none && (ts.atGroup .parenthesis || ts.atSymbol "::" && ts.third.atGroup .parenthesis) then
    discard (symbol? "::")
    discard (group .parenthesis (commaSeparated (g.ty true)))
    discard (output g false)

/-- A mark of constness in front of a bound, where it is allowed. -/
def constMark (allowed : Bool) : Parser Unit := do
  let ts ← look
  if ts.atGroup .bracket then
    group .bracket (word "const")
    if !allowed then
      denied "`[const]` is not allowed here"
  else if ts.atWord "const" then
    word "const"
    if !allowed then
      denied "`const` is not allowed here"

def traitBound (g : Grammar) (const : Bool) : Parser Unit := do
  let binds ← binder? g
  constMark const
  let relaxed ← symbol? "?"
  let binds ← if relaxed && !binds then binder? g else pure binds
  roundArguments? g (← path g .inType)
  if binds && relaxed then
    denied "`for<...>` binder not allowed with `?` trait polarity modifier"

/-- One bound; the result tells whether it is a trait. The flags allow captured parameters and marks
of constness. -/
def bound (g : Grammar) (captures const : Bool) : Parser Bool := do
  let ts ← look
  if ts.atLifetime then
    discard lifetime
    return false
  else if ts.atWord "use" then
    capture
    if captures then
      return false
    else
      denied "`use<...>` precise capturing syntax is not allowed here"
  else if ts.atGroup .parenthesis then
    group .parenthesis (traitBound g const)
    return true
  else
    traitBound g const
    return true

def atBound (const : Bool) (ts : Rest) : Bool :=
  ts.atIdent || ts.atSymbol "::" || ts.atSymbol "?" || ts.atLifetime || ts.atGroup .parenthesis ||
    const && (ts.atGroup .bracket || ts.atWord "const")

/-- Bounds behind `dyn` or `impl`, among which has to be a trait; `demand` says so in words. -/
def objectBounds (g : Grammar) (plus captures const : Bool) (demand : String) : Parser Unit := do
  let traits ← chained (bound g captures const) do
    if plus && (← test (·.atSymbol "+")) then
      symbol "+"
      test (atBound const)
    else
      return false
  if !traits.any id then
    denied ("at least one trait " ++ demand)

/-- Bounds behind a colon, up to something that cannot be a bound. -/
def bounds (g : Grammar) (stop : Rest → Bool) : Parser Unit :=
  discard (joined stop (bound g false true))

end NodeIdGen.Syntax
