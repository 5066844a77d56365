import NodeIdGen.Syntax.Expression

/-!
# Statements

The content of a block is a list of statements. An expression needs a semicolon behind it unless it
ends the block or ends with its own braces.
-/

namespace NodeIdGen.Syntax

open NodeIdGen.Syntax.Parser

/-- An item, and no expression, starts here. -/
def atItem (ts : Rest) : Bool :=
  let second := ts.second
  let third := ts.third
  ts.atWord "pub" || ts.atWord "crate" && !second.atSymbol "::" ||
    ts.atAnyWord ["extern", "use", "fn", "mod", "type", "struct", "enum", "trait", "impl",
      "macro"] ||
    ts.atWord "static" && (second.atWord "mut" || second.atName) ||
    ts.atWord "const" &&
      !(second.atGroup .brace || second.atWord "static" ||
        second.atWord "async" && !third.atAnyWord ["unsafe", "extern", "fn"] ||
        second.atWord "move" || second.atSymbol "|") ||
    ts.atWord "unsafe" && !second.atGroup .brace ||
    ts.atWord "async" && second.atAnyWord ["unsafe", "extern", "fn"] ||
    ts.atWord "union" && second.atName || ts.atWord "auto" && second.atWord "trait" ||
    ts.atWord "default" && second.atAnyWord ["unsafe", "impl"]

/-- How an invocation at the start of a statement reads. -/
inductive InvocationStart
  /-- A definition by an invocation, which is an item. -/
  | definition
  /-- An invocation with braces, which ends the statement. -/
  | braced
  | none

/-- What kind of invocation starts here, seen behind its path. -/
def invocationStart (behind : Rest) : InvocationStart :=
  let second := behind.second
  let third := behind.third
  if behind.atSymbol "!" then
    if second.atName || second.atWord "try" then .definition
    else if second.atGroup .brace &&
        !(third.atSymbol "." && !third.atSymbol ".." || third.atSymbol "?") then .braced
    else .none
  else .none

/-- The last token read between two places is a group in braces. -/
def endedWithBraces (before after : Rest) : Bool :=
  match before[before.length - after.length - 1]? with
  | some (.group .brace _) => true
  | _ => false

/-- A binding of a pattern to a value; `else` may follow a value that does not end with braces. -/
def binding (g : Grammar) : Parser Unit := do
  word "let"
  discard g.pat
  if ← symbol? ":" then
    discard (g.ty true)
  if ← symbol? "=" then
    let before ← look
    discard (g.expr true)
    let after ← look
    if after.atWord "else" && !endedWithBraces before after then
      word "else"
      discard (plainBlock g)
  symbol ";"

/-- An invocation with braces in the place of a statement. -/
def invocationStmt : Parser Stmt := do
  discard plainPath
  symbol "!"
  let (d, _) ← anyGroup
  return .invocation d (← symbol? ";")

def stmt (g : Grammar) : Parser Stmt := do
  let start ← get
  discard (outerAttributes g)
  let kind ← ahead? do
    discard plainPath
    return invocationStart (← look)
  let ts ← look
  match kind.getD .none with
  | .braced => invocationStmt
  | .definition =>
    set start
    discard g.item
    return .item
  | .none =>
    if ts.atWord "let" then
      binding g
      return .binding
    else if atItem ts then
      set start
      discard g.item
      return .item
    else
      let e ← g.early
      let ended ← symbol? ";"
      match e with
      | .invocation d =>
        if ended || d = .brace then return .invocation d ended else return .expr e ended
      | _ => return .expr e ended

/-- The statement needs a semicolon behind it if another one follows. -/
def Stmt.needsSemicolon : Stmt → Bool
  | .expr e false => e.needsSemicolon
  | .invocation d false => d ≠ .brace
  | _ => false

/-- A statement with the semicolons behind it; one that needs a semicolon has to end the block. -/
def stmtThenGap (g : Grammar) : Parser Stmt := do
  let s ← stmt g
  if s.needsSemicolon && !(← test (·.isEmpty)) then
    broken "unexpected token, expected `;`"
  else
    discard (whileIs (·.atSymbol ";") (symbol ";"))
    return s

def stmtsRule (g : Grammar) : Parser (List Stmt) := do
  discard (whileIs (·.atSymbol ";") (symbol ";"))
  toEnd (stmtThenGap g)

end NodeIdGen.Syntax
