import NodeIdGen.Syntax.Function

/-!
# Items

The items of a file. What the grammar accepts without giving it a place of its own, such as a
function without a body, is `Item.other`. The rules for the kinds of items start behind the
visibility, which `itemRule` reads.
-/

namespace NodeIdGen.Syntax

open NodeIdGen.Syntax.Parser

/-! ## Structures, enumerations and unions -/

/-- The type of a field without a name may be a structure or union written out. -/
def atNestedFields (ts : Rest) : Bool :=
  ts.atWord "struct" || ts.atWord "union" && ts.second.atGroup .brace

/-- Named fields with commas between them; `n` bounds how deep they nest in fields without a
name. -/
def namedFields (g : Grammar) : Nat → Parser (List FieldDecl)
  | 0 => throw .exhausted
  | n + 1 =>
    group .brace <| commaSeparated do
      let attrs ← outerAttributes g
      discard visibility
      let unnamed ← test (·.atWord "_")
      let fieldName ← if unnamed then anyWord else name
      symbol ":"
      if unnamed && (← test atNestedFields) then
        discard anyWord
        discard (namedFields g n)
      else
        discard (g.ty true)
      return ⟨attrs, some fieldName⟩

/-- Named fields in braces. -/
def bracedFields (g : Grammar) : Parser (List FieldDecl) := do
  namedFields g (countAll ((← look).take 1) + 1)

/-- A field that is named by its position. -/
def positionalField (g : Grammar) : Parser FieldDecl := do
  let attrs ← outerAttributes g
  discard visibility
  discard (g.ty true)
  return ⟨attrs, none⟩

/-- Fields in parentheses. -/
def positionalFields (g : Grammar) : Parser (List FieldDecl) :=
  group .parenthesis (commaSeparated (positionalField g))

/-- The fields of a structure behind its generic parameters. -/
def structBody (g : Grammar) : Parser (List FieldDecl) := do
  let restricted ← whereClause g
  let ts ← look
  if !restricted && ts.atGroup .parenthesis then
    let fields ← positionalFields g
    discard (whereClause g)
    symbol ";"
    return fields
  else if ts.atGroup .brace then
    bracedFields g
  else
    symbol ";"
    return []

def structItem (g : Grammar) (attrs : List Attribute) : Parser Item := do
  word "struct"
  let n ← name
  let generic ← generics g
  let fields ← structBody g
  return .struct ⟨attrs, n, generic, fields⟩

/-- An alternative of an enumeration; the result is its name. -/
def alternative (g : Grammar) : Parser String := do
  discard (outerAttributes g)
  discard visibility
  let n ← name
  let ts ← look
  if ts.atGroup .brace then
    discard (bracedFields g)
  else if ts.atGroup .parenthesis then
    discard (positionalFields g)
  if ← symbol? "=" then
    discard (g.expr true)
  return n

def enumItem (g : Grammar) (attrs : List Attribute) : Parser Item := do
  word "enum"
  let n ← name
  discard (generics g)
  discard (whereClause g)
  let alternatives ← group .brace (commaSeparated (alternative g))
  return .enum ⟨attrs, n, alternatives⟩

def unionItem (g : Grammar) : Parser Item := do
  word "union"
  let n ← name
  discard (generics g)
  discard (whereClause g)
  discard (bracedFields g)
  return .union n

/-! ## Imports and invocations -/

/-- The tree of names behind `use`. -/
def useTreeRule (g : Grammar) (root : Bool) : Parser Bool := do
  let ts ← look
  if ts.atName || ts.atAnyWord ["self", "super", "crate", "try"] then
    discard anyWord
    if ← symbol? "::" then
      g.useTree false
    else if ← word? "as" then
      if ← test (fun ts => ts.atName || ts.atWord "_") then
        discard anyWord
        return true
      else
        broken "expected identifier or underscore"
    else
      return true
  else if ts.atSymbol "*" then
    symbol "*"
    return true
  else if ts.atGroup .brace then
    let parts ← group .brace <| commaSeparated do
      let rooted ← if root then symbol? "::" else pure false
      let plain ← g.useTree (root && !rooted)
      return plain && !rooted
    return parts.all id
  else
    wanted (.oneOf ["identifier", "`self`", "`super`", "`crate`", "`try`", "`*`", "curly braces"])

def useItem (g : Grammar) : Parser Item := do
  word "use"
  let rooted ← symbol? "::"
  let plain ← g.useTree (!rooted)
  symbol ";"
  return if plain then .useItem else .other

/-- An invocation in the place of an item. -/
def invocationItem : Parser Item := do
  let p ← plainPath
  symbol "!"
  if ← test (·.atWord "try") then
    discard anyWord
  else
    discard name?
  let (d, content) ← anyGroup
  if d ≠ .brace then
    symbol ";"
  return .invocation p content

/-- An invocation inside a trait, an implementation or a foreign block. -/
def invocationMember : Parser Unit := do
  discard plainPath
  symbol "!"
  let (d, _) ← anyGroup
  if d ≠ .brace then
    symbol ";"

/-- An invocation without visibility may start here. -/
def atInvocation (ts : Rest) : Bool :=
  ts.atName || ts.atAnyWord ["self", "super", "crate"] || ts.atSymbol "::"

/-- A definition of a `macro` of the newer kind. -/
def newMacroItem : Parser Item := do
  word "macro"
  discard name
  if ← test (·.atGroup .parenthesis) then
    skipGroup .parenthesis
  skipGroup .brace
  return .other

/-! ## Constants, statics and type aliases -/

/-- A constant behind `const`: its name, whether it has a value, and whether it is plain, that is
without generic parameters and `where` clause. -/
def constantRest (g : Grammar) : Parser (String × Bool × Bool) := do
  let ts ← look
  if ts.atName || ts.atWord "_" then
    let n ← anyWord
    let brackets ← generics? g
    symbol ":"
    discard (g.ty true)
    let valued ← symbol? "="
    if valued then
      discard (g.expr true)
    let restricted ← whereClause g
    symbol ";"
    return (n, valued, brackets.isNone && !restricted)
  else
    wanted (.oneOf ["identifier", "`_`"])

def constantItem (g : Grammar) : Parser Item := do
  word "const"
  let (n, valued, plain) ← constantRest g
  return if valued && plain then .constant n else .other

def staticItem (g : Grammar) : Parser Item := do
  word "static"
  discard (word? "mut")
  let n ← name
  if ← symbol? "=" then
    discard (g.expr true)
    symbol ";"
    return .other
  else
    symbol ":"
    discard (g.ty true)
    if ← symbol? ";" then
      return .other
    else
      symbol "="
      discard (g.expr true)
      symbol ";"
      return .static n

/-- Where a type alias may have its `where` clause. -/
inductive WherePlace
  | beforeValue
  | afterValue
  | both
  deriving DecidableEq, Repr

/-- Bounds of a type alias behind its name. -/
def aliasBounds (g : Grammar) : Parser Bool := do
  if ← symbol? ":" then
    discard <| separated
      (fun ts => ts.atWord "where" || ts.atSymbol "=" || ts.atSymbol ";") "+" (bound g false true)
    return true
  else
    return false

/-- A type alias from `type` on: its name, and whether it has a value and no bounds. -/
def aliasRest (g : Grammar) (place : WherePlace) : Parser (String × Bool) := do
  word "type"
  let n ← name
  discard (generics g)
  let bounded ← aliasBounds g
  let restricted ← if place = .afterValue then pure false else whereClause g
  let valued ← symbol? "="
  if valued then
    discard (g.ty true)
  if place ≠ .beforeValue && !restricted then
    discard (whereClause g)
  symbol ";"
  return (n, valued && !bounded)

def aliasItem (g : Grammar) : Parser Item := do
  let (n, plain) ← aliasRest g .beforeValue
  return if plain then .typeAlias n else .other

/-! ## Functions -/

/-- A function without a body has no place of its own. -/
def functionItem (g : Grammar) : Parser Item := do
  let s ← signature g false
  if ← symbol? ";" then
    return .other
  else
    discard (body g)
    return .function s.name

/-! ## Traits -/

/-- A function of a trait, with or without a body. -/
def traitFunction (g : Grammar) : Parser Unit := do
  discard (signature g false)
  if ← test (·.atGroup .brace) then
    discard (body g)
  else
    symbol ";"

/-- What a member of a trait or an implementation may start with. -/
def memberStarts : List String :=
  ["`fn`", "`const`", "`type`", "identifier", "`self`", "`super`", "`crate`", "`::`"]

/-- What stands inside a trait. -/
def traitMember (g : Grammar) : Parser Unit := do
  discard (outerAttributes g)
  let visible ← visibility
  let default ← word? "default"
  let ts ← look
  if ← atSignature false then
    traitFunction g
  else if ts.atWord "const" then
    word "const"
    discard (constantRest g)
  else if ts.atWord "type" then
    discard (aliasRest g .afterValue)
  else if !visible && !default && atInvocation ts then
    invocationMember
  else
    wanted (.oneOf memberStarts)

/-- The bounds, the `where` clause and the content of a trait. -/
def traitRest (g : Grammar) : Parser Unit := do
  if ← symbol? ":" then
    discard <| separated (fun ts => ts.atWord "where" || ts.atGroup .brace) "+" (bound g false true)
  discard (whereClause g)
  group .brace do
    discard (innerAttributes g)
    discard (toEnd (traitMember g))

def traitItem (g : Grammar) : Parser Item := do
  discard (word? "unsafe")
  discard (word? "auto")
  word "trait"
  let n ← name
  discard (generics g)
  traitRest g
  return .trait n

/-- A trait, or an alias of bounds. -/
def traitOrAliasItem (g : Grammar) : Parser Item := do
  word "trait"
  let n ← name
  discard (generics g)
  let ts ← look
  if ts.atGroup .brace || ts.atSymbol ":" || ts.atWord "where" then
    traitRest g
    return .trait n
  else if ts.atSymbol "=" then
    symbol "="
    discard <| separated (fun ts => ts.atWord "where" || ts.atSymbol ";") "+" (bound g false false)
    discard (whereClause g)
    symbol ";"
    return .other
  else
    wanted (.oneOf ["curly braces", "`:`", "`where`", "`=`"])

/-! ## Implementations -/

/-- What stands inside an implementation. -/
def implMember (g : Grammar) : Parser ImplMember := do
  let attrs ← outerAttributes g
  let visible ← visibility
  let ts ← look
  let default := ts.atWord "default" && !ts.second.atSymbol "!"
  if default then
    word "default"
  let ts ← look
  if ← atSignature false then
    let s ← signature g false
    if ← symbol? ";" then
      return .other
    else
      return .method ⟨attrs, s, ← body g⟩
  else if ts.atWord "const" then
    word "const"
    discard (constantRest g)
    return .other
  else if ts.atWord "type" then
    discard (aliasRest g .afterValue)
    return .other
  else if !visible && !default && atInvocation ts then
    invocationMember
    return .other
  else
    wanted (.oneOf memberStarts)

/-- The type that an implementation is for, with the trait in front of it. -/
def implTarget (g : Grammar) (negative : Bool) : Parser (Option (Option Path) × Ty) := do
  let first ← g.ty true
  if ← word? "for" then
    let target ← g.ty true
    match first with
    | .path p => return (some (some p), target)
    | _ => return (some none, target)
  else if negative then
    denied "inherent impls cannot be negative"
  else
    return (none, first)

/-- An implementation behind its visibility; one with a visibility, or for a trait that is no path,
has no place of its own. -/
def implItem (g : Grammar) (attrs : List Attribute) (visible : Bool) : Parser Item := do
  discard (word? "default")
  discard (word? "unsafe")
  word "impl"
  let generic ← if ← test opensGenerics then generics g else pure false
  let ts ← look
  let const := ts.atWord "const" || ts.atSymbol "?" && ts.second.atWord "const"
  if const then
    discard (symbol? "?")
    word "const"
  let ts ← look
  let negative := ts.atSymbol "!" && !ts.second.atGroup .brace
  if negative then
    symbol "!"
  let (traitPath, selfTy) ← implTarget g negative
  let restricted ← whereClause g
  let members ← group .brace do
    discard (innerAttributes g)
    toEnd (implMember g)
  if visible || const || traitPath = some none then
    return .other
  else
    return .implementation
      ⟨attrs, generic, negative, traitPath.getD none, selfTy, restricted, members⟩

/-! ## Modules, foreign blocks and imports of whole libraries -/

def moduleItem (g : Grammar) : Parser Item := do
  discard (word? "unsafe")
  word "mod"
  let n ← if ← test (·.atWord "try") then anyWord else name
  if ← test (·.atGroup .brace) then
    group .brace do
      discard (innerAttributes g)
      discard (toEnd g.item)
  else
    symbol ";"
  return .module n

/-- A static in a foreign block, behind its visibility. -/
def foreignStatic (g : Grammar) : Parser Unit := do
  if !(← word? "unsafe") then
    discard (word? "safe")
  word "static"
  discard (word? "mut")
  discard name
  symbol ":"
  discard (g.ty true)
  if ← symbol? "=" then
    discard (g.expr true)
  symbol ";"

/-- What stands inside a foreign block. -/
def foreignMember (g : Grammar) : Parser Unit := do
  discard (outerAttributes g)
  let visible ← visibility
  let ts ← look
  if ← atSignature true then
    discard (signature g true)
    if ← test (·.atGroup .brace) then
      discard (body g)
    else
      symbol ";"
  else if ts.atWord "static" || ts.atAnyWord ["unsafe", "safe"] && ts.second.atWord "static" then
    foreignStatic g
  else if ts.atWord "type" then
    discard (aliasRest g .both)
  else if !visible && atInvocation ts then
    invocationMember
  else
    wanted (.oneOf ["`fn`", "`static`", "`type`", "identifier", "`self`", "`super`", "`crate`",
      "`::`"])

/-- A block of foreign declarations. -/
def foreignItem (g : Grammar) : Parser Item := do
  discard (word? "unsafe")
  if ← abi? then
    group .brace do
      discard (innerAttributes g)
      discard (toEnd (foreignMember g))
    return .other
  else
    wanted (.word "extern")

/-- An import of a whole library. -/
def libraryItem : Parser Item := do
  word "extern"
  word "crate"
  if ← test (·.atWord "self") then
    discard anyWord
  else
    discard name
  if ← word? "as" then
    if !(← word? "_") then
      discard name
  symbol ";"
  return .other

/-! ## All items -/

/-- A foreign block stands here, without a visibility. -/
def atForeign (ts : Rest) : Bool :=
  ts.atWord "extern" &&
    (ts.second.atGroup .brace || ts.second.atString && ts.third.atGroup .brace)

/-- How messages name what may start an item. -/
def itemStarts : List String :=
  ["`fn`", "`extern`", "`use`", "`static`", "`const`", "`unsafe`", "`mod`", "`type`", "`struct`",
   "`enum`", "`union`", "`trait`", "`auto`", "`impl`", "`default`", "`macro`", "identifier",
   "`self`", "`super`", "`crate`", "`::`"]

/-- An item marked as unsafe, or one that cannot be told apart from it before. -/
def unsafeItem (g : Grammar) (attrs : List Attribute) (visible : Bool) : Parser Item := do
  let ts ← look
  let second := ts.second
  if second.atWord "trait" || second.atWord "auto" && ts.third.atWord "trait" then
    traitItem g
  else if second.atWord "impl" then
    implItem g attrs visible
  else if second.atWord "extern" && !visible then
    foreignItem g
  else if second.atWord "mod" then
    moduleItem g
  else
    wanted (.oneOf ["`trait`", "`auto`", "`impl`", "`extern`", "`mod`"])

def itemRule (g : Grammar) : Parser Item := do
  let attrs ← outerAttributes g
  let visible ← visibility
  let ts ← look
  if ← atSignature false then
    functionItem g
  else if ts.atWord "extern" && ts.second.atWord "crate" then
    libraryItem
  else if atForeign ts && !visible then
    foreignItem g
  else if ts.atWord "use" then
    useItem g
  else if ts.atWord "static" then
    staticItem g
  else if ts.atWord "const" then
    constantItem g
  else if ts.atWord "unsafe" then
    unsafeItem g attrs visible
  else if ts.atWord "mod" then
    moduleItem g
  else if ts.atWord "type" then
    aliasItem g
  else if ts.atWord "struct" then
    structItem g attrs
  else if ts.atWord "enum" then
    enumItem g attrs
  else if ts.atWord "union" && ts.second.atName then
    unionItem g
  else if ts.atWord "trait" then
    traitOrAliasItem g
  else if ts.atWord "auto" && ts.second.atWord "trait" then
    traitItem g
  else if ts.atWord "impl" || ts.atWord "default" && !ts.second.atSymbol "!" then
    implItem g attrs visible
  else if ts.atWord "macro" then
    newMacroItem
  else if !visible && atInvocation ts then
    invocationItem
  else
    wanted (.oneOf itemStarts)

end NodeIdGen.Syntax
