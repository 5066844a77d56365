import NodeIdGen.Syntax.Grammar

/-!
# Plain paths, attributes and visibility
-/

namespace NodeIdGen.Syntax

open NodeIdGen.Syntax.Parser

/-- The reserved words that may stand in a path. -/
def pathWords : List String :=
  ["super", "self", "Self", "crate"]

/-- A segment of a plain path stands in front. -/
def atPlainSegment (ts : Rest) : Bool :=
  ts.atName || ts.atAnyWord pathWords

def plainPath : Parser Path := do
  let rooted ← symbol? "::"
  if ← test atPlainSegment then
    let names ← chained anyWord do
      if ← symbol? "::" then
        if ← test atPlainSegment then
          return true
        else
          broken "expected path segment after `::`"
      else
        return false
    return ⟨rooted, names.map (⟨·, .absent⟩)⟩
  else
    return ⟨rooted, [⟨← name, .absent⟩]⟩

/-- The path in front of the arguments of an attribute. -/
def attributePath : Parser Path := do
  if ← word? "unsafe" then
    return .ofName "unsafe"
  else
    plainPath

/-- What stands between the brackets of an attribute. -/
def attributeContent (g : Grammar) : Parser Attribute := do
  let path ← attributePath
  let ts ← look
  if ts.atAnyGroup then
    discard anyGroup
    return ⟨path, true⟩
  else if ts.atSymbol "=" && !ts.atSymbol "==" && !ts.atSymbol "=>" then
    symbol "="
    let ts ← look
    if ts.atSymbol "#" && ts.second.atGroup .bracket then
      broken "unexpected attribute inside of attribute"
    else
      discard (g.expr true)
      return ⟨path, true⟩
  else
    return ⟨path, false⟩

/-- An attribute of what follows it. -/
def outerAttribute (g : Grammar) : Parser Attribute := do
  symbol "#"
  group .bracket (attributeContent g)

def outerAttributes (g : Grammar) : Parser (List Attribute) :=
  whileIs (·.atSymbol "#") (outerAttribute g)

/-- An attribute of what encloses it. -/
def innerAttribute (g : Grammar) : Parser Attribute := do
  symbol "#"
  symbol "!"
  group .bracket (attributeContent g)

def innerAttributes (g : Grammar) : Parser (List Attribute) :=
  whileIs (fun ts => ts.atSymbol "#" && ts.second.atSymbol "!") (innerAttribute g)

/-- The restriction behind `pub`, told apart from the parentheses of a positional field. -/
def restriction : Parser Bool := do
  let ts ← look
  match ts with
  | .group .parenthesis content :: after =>
    if Rest.atAnyWord ["crate", "self", "super"] content then
      if content.length = 1 then
        moveTo after
        return true
      else
        return false
    else if Rest.atWord "in" content then
      group .parenthesis do
        word "in"
        discard plainPath
      return true
    else
      return false
  | _ => return false

/-- The visibility of an item or field; the result tells whether one is given. -/
def visibility : Parser Bool := do
  if ← word? "pub" then
    discard restriction
    return true
  else
    return false

end NodeIdGen.Syntax
