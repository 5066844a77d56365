import NodeIdGen.Syntax.Statement

/-!
# Functions
-/

namespace NodeIdGen.Syntax

open NodeIdGen.Syntax.Parser

def receiver (g : Grammar) : Parser Param := do
  let reference ← if ← symbol? "&" then some <$> lifetime? else pure none
  let mutable ← word? "mut"
  word "self"
  let ty ← if reference.isNone && (← symbol? ":") then some <$> g.ty true else pure none
  return .receiver reference mutable ty

def param (g : Grammar) : Parser Param := do
  discard (outerAttributes g)
  if ← symbol? "..." then
    return .variadic
  else
    match ← attempt (receiver g) with
    | some r => return r
    | none =>
      let ts ← look
      if ts.atName && ts.second.atSymbol "<" then
        return .typed (← g.ty true)
      else
        discard g.pat
        symbol ":"
        if ← symbol? "..." then
          return .variadic
        else
          return .typed (← g.ty true)

/-- The parameters of a function from the given one on. A receiver has to be the first, and what is
variadic the last. -/
def params (g : Grammar) (first : Bool) : Nat → Parser (List Param)
  | 0 => throw .exhausted
  | n + 1 => do
    if ← test (·.isEmpty) then
      return []
    let p ← param g
    match p with
    | .variadic =>
      if !(← test (·.isEmpty)) then
        symbol ","
      return [p]
    | .receiver _ _ _ =>
      if !first then
        denied "unexpected method receiver"
    | .typed _ => pure ()
    if ← test (·.isEmpty) then
      return [p]
    else
      symbol ","
      return p :: (← params g false n)

/-- The words in front of `fn`; the flag allows `safe` among them. -/
def functionMarks (safe : Bool) : Parser Bool := do
  let const ← word? "const"
  let async ← word? "async"
  let marked ← word? "unsafe"
  let marked ← if safe && !marked then word? "safe" else pure marked
  let external ← abi?
  return const || async || marked || external

def atSignature (safe : Bool) : Parser Bool := do
  let marks ← ahead? do
    discard (functionMarks safe)
    test (·.atWord "fn")
  return marks.getD false

def signature (g : Grammar) (safe : Bool) : Parser Signature := do
  let qualified ← functionMarks safe
  word "fn"
  let n ← name
  let generic ← generics g
  let ps ← group .parenthesis do
    params g true ((← look).length + 1)
  let result ← output g true
  let restricted ← whereClause g
  return ⟨qualified, n, generic, ps, result, restricted⟩

end NodeIdGen.Syntax
