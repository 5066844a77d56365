import NodeIdGen.Syntax.Literal
import NodeIdGen.Syntax.Pattern

/-!
# Expressions

An expression is an atom with what trails it, behind prefix operators, and then binary operators by
how tightly they bind. Ranges and comparisons do not chain, and what a cast yields cannot be
projected, called or indexed without parentheses.
-/

namespace NodeIdGen.Syntax

open NodeIdGen.Syntax.Parser

/-! ## Blocks and the forms that end with one -/

/-- The braces of a block that cannot start with attributes about it. -/
def plainBlock (g : Grammar) : Parser (List Stmt) :=
  group .brace g.stmts

/-- A condition and its block, and what follows behind `else`. -/
def ifExpr (g : Grammar) : Parser Unit := do
  let branch : Parser Unit := do
    word "if"
    discard (g.expr false)
    discard (plainBlock g)
  discard <| chained branch do
    if ← word? "else" then
      let ts ← look
      if ts.atWord "if" then
        return true
      else if ts.atGroup .brace then
        discard (plainBlock g)
        return false
      else
        wanted (.oneOf ["`if`", "curly braces"])
    else
      return false

def whileExpr (g : Grammar) : Parser Unit := do
  word "while"
  discard (g.expr false)
  discard (body g)

def forExpr (g : Grammar) : Parser Unit := do
  word "for"
  discard (alternatives g)
  word "in"
  discard (g.expr false)
  discard (body g)

def loopExpr (g : Grammar) : Parser Unit := do
  word "loop"
  discard (body g)

/-- The expression needs a comma behind it if another arm follows. -/
def Expr.needsComma : Expr → Bool
  | .block => false
  | _ => true

/-- The expression needs a semicolon behind it if another statement follows. -/
def Expr.needsSemicolon : Expr → Bool
  | .block => false
  | .invocation d => d ≠ .brace
  | _ => true

def arm (g : Grammar) : Parser Unit := do
  discard (outerAttributes g)
  discard (alternatives g)
  if ← word? "if" then
    discard (g.expr true)
  symbol "=>"
  let e ← g.early
  if e.needsComma && !(← test (·.isEmpty)) then
    symbol ","
  else
    discard (symbol? ",")

def matchExpr (g : Grammar) : Parser Unit := do
  word "match"
  discard (g.expr false)
  group .brace do
    discard (innerAttributes g)
    discard (toEnd (arm g))

/-- A block or loop behind a label. -/
def labelled (g : Grammar) : Parser Unit := do
  discard lifetime
  symbol ":"
  let ts ← look
  if ts.atWord "while" then
    whileExpr g
  else if ts.atWord "for" then
    forExpr g
  else if ts.atWord "loop" then
    loopExpr g
  else if ts.atGroup .brace then
    discard (body g)
  else
    broken "expected loop or block expression"

/-! ## Atoms -/

def atExpr (ts : Rest) : Bool :=
  ts.atIdent || ts.atAnyGroup || ts.atLiteral ||
    ts.atSymbol "!" && !ts.atSymbol "!=" ||
    ts.atSymbol "-" && !ts.atSymbol "-=" && !ts.atSymbol "->" ||
    ts.atSymbol "*" && !ts.atSymbol "*=" ||
    ts.atSymbol "|" && !ts.atSymbol "|=" ||
    ts.atSymbol "&" && !ts.atSymbol "&=" ||
    ts.atSymbol ".." || atAngle ts || ts.atSymbol "::" || ts.atLifetime || ts.atSymbol "#"

/-- The parameters and the body of a closure behind what marks it. -/
def closure (g : Grammar) (braces : Bool) : Parser Unit := do
  discard (binder? g)
  discard (word? "const")
  discard (word? "static")
  discard (word? "async")
  discard (word? "move")
  symbol "|"
  discard <| separated (·.atSymbol "|") "," do
    discard (outerAttributes g)
    discard g.pat
    if ← symbol? ":" then
      discard (g.ty true)
  symbol "|"
  if ← symbol? "->" then
    discard (g.ty true)
    discard (plainBlock g)
  else
    discard (g.expr braces)

/-- A field of a structure, with its value or by its name alone. -/
def fieldValue (g : Grammar) : Parser Unit := do
  discard (outerAttributes g)
  let positional := match ← member with
    | .index _ => true
    | .named _ => false
  if positional || (← test (·.atSymbol ":")) then
    symbol ":"
    discard (g.expr true)

/-- The fields of a structure; two points and the value that gives the others end them. -/
def fieldValues (g : Grammar) : Nat → Parser Unit
  | 0 => throw .exhausted
  | n + 1 => do
    if ← test (·.isEmpty) then
      return
    if ← symbol? ".." then
      if !(← test (·.isEmpty)) then
        discard (g.expr true)
    else
      fieldValue g
      if !(← test (·.isEmpty)) then
        symbol ","
        fieldValues g n

/-- A path, an invocation, or a structure's path with its fields. -/
def pathExpr (g : Grammar) (braces : Bool) : Parser Expr := do
  let (qualified, p) ← qualifiedPath g .inExpr
  match ← invocation? qualified p with
  | some d => return .invocation d
  | none =>
    if braces && (← test (·.atGroup .brace)) then
      group .brace do
        fieldValues g ((← look).length + 1)
      return .other
    else
      return if qualified then .other else .path p

/-- What stands in the brackets of an array. -/
def arrayElements (g : Grammar) : Parser Unit := do
  if ← test (·.isEmpty) then
    return
  discard (g.expr true)
  let ts ← look
  if ts.isEmpty then
    return
  else if ts.atSymbol "," then
    symbol ","
    discard (commaSeparated (g.expr true))
  else if ts.atSymbol ";" then
    symbol ";"
    discard (g.expr true)
  else
    broken "expected `,` or `;`"

/-- A condition that binds by a pattern. -/
def letExpr (g : Grammar) (braces : Bool) : Parser Unit := do
  word "let"
  discard (alternatives g)
  symbol "="
  let lhs ← g.unary braces
  discard (g.climb braces .compare lhs)

/-- The value of a jump, if one may start here. -/
def jumpValue (g : Grammar) (braces : Bool) : Parser Unit := do
  let ts ← look
  if atExpr ts && (braces || !ts.atGroup .brace) then
    discard (g.expr true)

def breakExpr (g : Grammar) (braces : Bool) : Parser Unit := do
  word "break"
  let ts ← look
  if ts.atLifetime && ts.second.atSymbol ":" then
    discard (g.expr true)
    denied "parentheses required"
  else
    discard lifetime?
    jumpValue g braces

/-- A form that the compiler itself provides. -/
def builtin : Parser Unit := do
  word "builtin"
  symbol "#"
  discard name
  skipGroup .parenthesis

/-- The end of a range that has no upper bound. -/
def endsRange (braces : Bool) (ts : Rest) : Bool :=
  ts.isEmpty || ts.atSymbol "," || ts.atSymbol ";" || ts.atSymbol "." && !ts.atSymbol ".." ||
    ts.atSymbol "?" || ts.atSymbol "=>" || !braces && ts.atGroup .brace ||
    ts.atAnySymbol
      ["=", "+", "/", "%", "^", ">", "<=", "!=", "-=", "*=", "&=", "|=", "<<="] ||
    ts.atWord "as"

/-! ## Binary operators -/

/-- The binary operators, the longer ones first. -/
def binaryOperators : List (String × Precedence) :=
  [("+=", .assign), ("-=", .assign), ("*=", .assign), ("/=", .assign), ("%=", .assign),
   ("^=", .assign), ("&=", .assign), ("|=", .assign), ("<<=", .assign), (">>=", .assign),
   ("&&", .and), ("||", .or), ("<<", .shift), (">>", .shift), ("==", .compare), ("<=", .compare),
   ("!=", .compare), (">=", .compare), ("+", .sum), ("-", .sum), ("*", .product), ("/", .product),
   ("%", .product), ("^", .bitXor), ("&", .bitAnd), ("|", .bitOr), ("<", .compare),
   (">", .compare)]

/-- The binary operator in front and the tokens behind it. -/
def binaryOperator? (ts : Rest) : Option (Precedence × Rest) :=
  binaryOperators.findSome? fun (s, p) => (Rest.symbol? s.toList ts).map (p, ·)

/-- How tightly the next operator binds. -/
def nextPrecedence (ts : Rest) : Precedence :=
  match binaryOperator? ts with
  | some (p, _) => p
  | none =>
    if ts.atSymbol "=" && !ts.atSymbol "=>" then .assign
    else if ts.atSymbol ".." then .range
    else if ts.atWord "as" then .cast
    else .jump

/-- Takes into the right-hand side of an operator all that binds tighter. -/
def tighten (g : Grammar) (braces : Bool) (p : Precedence) : Nat → Expr → Parser Unit
  | 0, _ => throw .exhausted
  | n + 1, rhs => do
    let ts ← look
    let next := nextPrecedence ts
    if p.level < next.level || next = p && p = .assign then
      let rhs ← g.climb braces next rhs
      if (← look).length = ts.length then
        return
      else
        tighten g braces p n rhs
    else
      return

def rightHand (g : Grammar) (braces : Bool) (p : Precedence) : Parser Unit := do
  let rhs ← g.unary braces
  tighten g braces p ((← look).length + 1) rhs

/-- The points of a range and its upper bound. -/
def rangeEnd (g : Grammar) (braces : Bool) : Parser Unit := do
  let closed ← rangePoints false
  if !closed && (← test (endsRange braces)) then
    return
  else
    rightHand g braces .range

/-- What a cast cannot be followed by. -/
def castEnd : Parser Unit := do
  let ts ← look
  let denial (what : String) : Parser Unit := broken ("casts cannot be followed by " ++ what)
  if ts.atSymbol "." && !ts.atSymbol ".." then
    if ts.second.atWord "await" then
      denial "`.await`"
    else if ts.second.atName && (ts.third.atGroup .parenthesis || ts.third.atSymbol "::") then
      denial "a method call"
    else
      denial "a field access"
  else if ts.atSymbol "?" then
    denial "`?`"
  else if ts.atGroup .bracket then
    denial "indexing"
  else if ts.atGroup .parenthesis then
    denial "a function call"

/-- Operators that bind at least as tightly as `base`, behind a left-hand side. -/
def climbing (g : Grammar) (braces : Bool) (base : Precedence) : Nat → Expr → Parser Expr
  | 0, _ => throw .exhausted
  | n + 1, lhs => do
    if lhs = .range then
      return lhs
    let ts ← look
    match binaryOperator? ts with
    | some (p, rest) =>
      if p.level < base.level then
        return lhs
      else if p = .compare && lhs = .comparison then
        broken "comparison operators cannot be chained"
      else
        moveTo rest
        rightHand g braces p
        climbing g braces base n (if p = .compare then .comparison else .other)
    | none =>
      if base.level ≤ Precedence.assign.level && ts.atSymbol "=" && !ts.atSymbol "=>" then
        symbol "="
        rightHand g braces .assign
        climbing g braces base n .other
      else if base.level ≤ Precedence.range.level && ts.atSymbol ".." then
        rangeEnd g braces
        return .range
      else if ts.atWord "as" then
        word "as"
        discard (g.ty false)
        castEnd
        climbing g braces base n .other
      else
        return lhs

/-- The operators behind a left-hand side. -/
def climbRule (g : Grammar) (braces : Bool) (base : Precedence) (lhs : Expr) : Parser Expr := do
  climbing g braces base ((← look).length + 1) lhs

/-! ## Atoms, what trails them, and prefix operators -/

def atClosure (ts : Rest) : Bool :=
  ts.atSymbol "|" || ts.atWord "move" || ts.atWord "for" && opensGenerics ts.second ||
    ts.atWord "const" && !ts.second.atGroup .brace || ts.atWord "static" ||
    ts.atWord "async" && (ts.second.atSymbol "|" || ts.second.atWord "move")

/-- The forms that end with their own braces, and whether one stands here. -/
def blockExpr? (g : Grammar) (ts : Rest) : Option (Parser Unit) :=
  if ts.atWord "if" then some (ifExpr g)
  else if ts.atWord "while" then some (whileExpr g)
  else if ts.atWord "for" && !opensGenerics ts.second then some (forExpr g)
  else if ts.atWord "loop" then some (loopExpr g)
  else if ts.atWord "match" then some (matchExpr g)
  else if ts.atWord "try" && ts.second.atGroup .brace then
    some do
      word "try"
      discard (plainBlock g)
  else if ts.atWord "unsafe" then
    some do
      word "unsafe"
      discard (body g)
  else if ts.atWord "const" && ts.second.atGroup .brace then
    some do
      word "const"
      discard (body g)
  else if ts.atGroup .brace then some (discard (body g))
  else if ts.atLifetime then some (labelled g)
  else none

/-- An expression without operators. -/
def atom (g : Grammar) (braces : Bool) : Parser Expr := do
  let ts ← look
  if ts.atLiteral then
    literal
    return .other
  else if ts.atWord "async" &&
      (ts.second.atGroup .brace || ts.second.atWord "move" && ts.third.atGroup .brace) then
    word "async"
    discard (word? "move")
    discard (plainBlock g)
    return .other
  else if atClosure ts then
    closure g braces
    return .other
  else if ts.atWord "builtin" && ts.second.atSymbol "#" then
    builtin
    return .other
  else if atTypePath ts ||
      ts.atWord "try" && (ts.second.atSymbol "!" || ts.second.atSymbol "::") then
    pathExpr g braces
  else if ts.atGroup .parenthesis then
    group .parenthesis (discard (commaSeparated (g.expr true)))
    return .other
  else if ts.atWord "break" then
    breakExpr g braces
    return .other
  else if ts.atWord "continue" then
    word "continue"
    discard lifetime?
    return .other
  else if ts.atAnyWord ["return", "yield"] then
    discard anyWord
    jumpValue g true
    return .other
  else if ts.atWord "become" then
    word "become"
    discard (g.expr true)
    return .other
  else if ts.atGroup .bracket then
    group .bracket (arrayElements g)
    return .other
  else if ts.atWord "let" then
    letExpr g braces
    return .other
  else if ts.atSymbol ".." then
    rangeEnd g braces
    return .range
  else if ts.atWord "_" then
    word "_"
    return .other
  else
    match blockExpr? g ts with
    | some form =>
      form
      return .block
    | none => wanted .expression

/-- The position that a part of a float spells. -/
def position? (cs : List Char) : Option Nat :=
  if cs.all isDecimalPart && cs.head?.any Char.isDigit && digitsValue 10 cs < UInt32.size then
    some (digitsValue 10 cs)
  else
    none

/-- The positions that a float spells which stands behind a point, and whether a point ends it. -/
def floatPositions? (text : String) : Option (List Nat × Bool) :=
  let cs := text.toList
  let ended := cs.getLast? == some '.'
  let digits := if ended then cs.dropLast else cs
  let whole := digits.takeWhile (· ≠ '.')
  match digits.dropWhile (· ≠ '.') with
  | [] => (position? whole).map fun n => ([n], ended)
  | _ :: part => do return ([← position? whole, ← position? part], ended)

/-- Projections one behind the other. -/
def Expr.fields (e : Expr) (positions : List Nat) : Expr :=
  positions.foldl (fun e n => .field e (.index n)) e

/-- A method call or a projection behind its point. -/
def projection (g : Grammar) (e : Expr) : Parser Expr := do
  if ← word? "await" then
    return .other
  else
    let m ← member
    let named := match m with
      | .named _ => true
      | .index _ => false
    let turbofish ← if named && (← test (·.atSymbol "::")) then
        symbol "::"
        discard g.arguments
        pure true
      else pure false
    if named && (turbofish || (← test (·.atGroup .parenthesis))) then
      discard (group .parenthesis (commaSeparated (g.expr true)))
      return .other
    else
      return .field e m

/-- What follows a point: the positions that a float spells, and then perhaps more. -/
def behindPoint (g : Grammar) (e : Expr) : Parser Expr := do
  match ← look with
  | .literal (.float text) :: ts =>
    match floatPositions? text with
    | none => denied "expected unsuffixed integer"
    | some (positions, ended) =>
      moveTo ts
      if ended then
        projection g (e.fields positions)
      else
        return e.fields positions
  | _ => projection g e

/-- Calls, projections, indexing and `?` behind an atom; a range takes only the first and third. -/
def trailing (g : Grammar) : Nat → Expr → Parser Expr
  | 0, _ => throw .exhausted
  | n + 1, e => do
    let ts ← look
    if ts.atGroup .parenthesis then
      discard (group .parenthesis (commaSeparated (g.expr true)))
      trailing g n .other
    else if ts.atSymbol "." && !ts.atSymbol ".." && e ≠ .range then
      symbol "."
      trailing g n (← behindPoint g e)
    else if ts.atGroup .bracket then
      group .bracket (discard (g.expr true))
      trailing g n .other
    else if ts.atSymbol "?" && e ≠ .range then
      symbol "?"
      trailing g n .other
    else
      return e

def trailers (g : Grammar) (e : Expr) : Parser Expr := do
  trailing g ((← look).length + 1) e

/-- The marks behind `&`: a raw address names its mutability, a reference may. -/
def referenceMarks : Parser Unit := do
  let ts ← look
  if ts.atWord "raw" && ts.second.atAnyWord ["mut", "const"] then
    discard anyWord
    discard anyWord
  else
    discard (word? "mut")

/-- Prefix operators, an atom and what trails it. -/
def unaryRule (g : Grammar) (braces : Bool) : Parser Expr := do
  let attrs ← outerAttributes g
  let ts ← look
  if ts.atSymbol "&" then
    symbol "&"
    referenceMarks
    discard (g.unary braces)
    return .other
  else if ts.atAnySymbol ["*", "!", "-"] then
    moveTo (ts.drop 1)
    discard (g.unary braces)
    return .other
  else
    let e ← trailers g (← atom g braces)
    if e = .range && !attrs.isEmpty then
      denied "attributes are not allowed on range expressions"
    else
      return e

def exprRule (g : Grammar) (braces : Bool) : Parser Expr := do
  g.climb braces .jump (← g.unary braces)

/-- An expression in the place of a statement or an arm: a form with its own braces ends it, unless
a point or `?` follows. -/
def earlyRule (g : Grammar) : Parser Expr := do
  discard (outerAttributes g)
  match blockExpr? g (← look) with
  | some form =>
    form
    let ts ← look
    if ts.atSymbol "." && !ts.atSymbol ".." || ts.atSymbol "?" then
      g.climb true .jump (← trailers g .block)
    else
      return .block
  | none => exprRule g true

end NodeIdGen.Syntax
