import NodeIdGen.Syntax.Token

/-!
# What the parsers return

The grammar is checked in full, but only so much of what is read is kept as later decisions need:
paths, the shape of types, patterns and expressions where a rule of the grammar looks at it, and
the items of a file with their names, fields and attributes.
-/

namespace NodeIdGen.Syntax

/-- The arguments behind a segment of a path. -/
inductive Arguments
  | absent
  /-- In angle brackets, between which something stands or nothing. -/
  | angle (given : Bool)
  /-- In parentheses, as behind the name of a function trait. -/
  | round
  deriving DecidableEq, Repr

/-- A name in a path with the arguments behind it. -/
structure Segment where
  name : String
  arguments : Arguments := .absent
  deriving DecidableEq, Repr

/-- Names joined by `::`; `rooted` if the path starts with `::`. -/
structure Path where
  rooted : Bool := false
  segments : List Segment
  deriving DecidableEq, Repr

namespace Path

/-- The path of one bare name. -/
def ofName (name : String) : Path :=
  ⟨false, [⟨name, .absent⟩]⟩

/-- The names of the path, joined. -/
def text (p : Path) : String :=
  "::".intercalate (p.segments.map (·.name))

def isBare (p : Path) : Bool :=
  p.segments.all (·.arguments = .absent)

/-- The path is the one name and nothing else. -/
def isName (p : Path) (name : String) : Bool :=
  p = ofName name

def lastName? (p : Path) : Option String :=
  p.segments.getLast?.map (·.name)

end Path

/-- An attribute: its path, and whether it has arguments or a value. -/
structure Attribute where
  path : Path
  payload : Bool
  deriving DecidableEq, Repr

/-- A type, as far as the grammar looks at it. -/
inductive Ty
  /-- A path without a qualified self type. -/
  | path (p : Path)
  /-- Bounds without `dyn`; `single` if there is one and no plus behind it. -/
  | bounds (single : Bool)
  | other
  deriving DecidableEq, Repr

/-- A pattern, as far as the grammar looks at it. -/
inductive Pat
  /-- Two points. -/
  | rest
  /-- A range that lacks one of its ends. -/
  | openRange
  | other
  deriving DecidableEq, Repr

/-- The part of a value that a projection names. -/
inductive Member
  | named (name : String)
  | index (n : Nat)
  deriving DecidableEq, Repr

/-- An expression, as far as the grammar or a reader of generated code looks at it. -/
inductive Expr
  | path (p : Path)
  | field (base : Expr) (member : Member)
  | range
  | comparison
  /-- A form that ends with its own braces and needs nothing behind it to be a statement. -/
  | block
  | invocation (d : Delimiter)
  | other
  deriving DecidableEq, Repr

/-- The part of a block between two statement ends. -/
inductive Stmt
  | item
  | binding
  | invocation (d : Delimiter) (ended : Bool)
  /-- An expression; `ended` if a semicolon follows it. -/
  | expr (e : Expr) (ended : Bool)
  | empty
  deriving DecidableEq, Repr

inductive Param
  /-- The receiver; `reference` holds its optional lifetime if it is taken by reference. -/
  | receiver (reference : Option (Option String)) (mutable : Bool) (ty : Option Ty)
  | typed (ty : Ty)
  | variadic
  deriving DecidableEq, Repr

structure Signature where
  /-- It has one of `const`, `async`, `unsafe` and `extern` before `fn`. -/
  qualified : Bool
  name : String
  generic : Bool
  params : List Param
  output : Option Ty
  restricted : Bool
  deriving DecidableEq, Repr

/-- A function with its body. -/
structure Method where
  attrs : List Attribute
  signature : Signature
  body : List Stmt
  deriving DecidableEq, Repr

/-- What stands inside an implementation. -/
inductive ImplMember
  | method (m : Method)
  | other
  deriving DecidableEq, Repr

/-- An implementation of a trait, or of a type alone. -/
structure Implementation where
  attrs : List Attribute
  generic : Bool
  negative : Bool
  traitPath : Option Path
  selfTy : Ty
  restricted : Bool
  members : List ImplMember
  deriving DecidableEq, Repr

/-- A field of a structure; positional fields have no name. -/
structure FieldDecl where
  attrs : List Attribute
  name : Option String
  deriving DecidableEq, Repr

structure StructDecl where
  attrs : List Attribute
  name : String
  /-- It has generic parameters. -/
  generic : Bool
  fields : List FieldDecl
  deriving DecidableEq, Repr

/-- An enumeration with the names of its alternatives. -/
structure EnumDecl where
  attrs : List Attribute
  name : String
  alternatives : List String
  deriving DecidableEq, Repr

inductive Item
  | struct (d : StructDecl)
  | enum (d : EnumDecl)
  /-- `path! { tokens }`. -/
  | invocation (path : Path) (content : List Token)
  | useItem
  | function (name : String)
  | typeAlias (name : String)
  | union (name : String)
  | trait (name : String)
  | constant (name : String)
  | static (name : String)
  | module (name : String)
  | implementation (i : Implementation)
  /-- Any other item that the grammar accepts. -/
  | other

end NodeIdGen.Syntax
