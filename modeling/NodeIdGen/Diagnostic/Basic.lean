/-!
# Diagnostics

A diagnostic says what is wrong with a schema. Its code fixes the phase in which it arises, a
message of its own kind, and perhaps advice; `Diagnostic.render` is how it is shown.
-/

namespace NodeIdGen

inductive Severity
  | error
  deriving DecidableEq, Repr

/-- The part of a run in which a diagnostic arises. -/
inductive Phase
  | parse
  | validate
  | resolve
  deriving DecidableEq, Repr

inductive Code
  | parseError
  | schemaVersionMismatch
  | unsupportedItem
  | duplicateDeclaration
  | markerWithPayload
  | invalidName
  | ambiguousIdentifier
  deriving DecidableEq, Repr

def Severity.name : Severity → String
  | .error => "Error"

def Phase.name : Phase → String
  | .parse => "Parse"
  | .validate => "Validate"
  | .resolve => "Resolve"

namespace Code

def all : List Code :=
  [.parseError, .schemaVersionMismatch, .unsupportedItem, .duplicateDeclaration,
   .markerWithPayload, .invalidName, .ambiguousIdentifier]

theorem mem_all (c : Code) : c ∈ all := by
  cases c <;> simp [all]

/-- The number of a code, as it is shown. -/
def number : Code → String
  | .parseError => "AGN0001"
  | .schemaVersionMismatch => "AGN0002"
  | .unsupportedItem => "AGN0100"
  | .duplicateDeclaration => "AGN0110"
  | .markerWithPayload => "AGN0120"
  | .invalidName => "AGN0130"
  | .ambiguousIdentifier => "AGN0200"

/-- The full name of a code, as it is stored. -/
def name : Code → String
  | .parseError => "AGN0001ParseError"
  | .schemaVersionMismatch => "AGN0002SchemaVersionMismatch"
  | .unsupportedItem => "AGN0100UnsupportedItem"
  | .duplicateDeclaration => "AGN0110DuplicateDeclaration"
  | .markerWithPayload => "AGN0120MarkerWithPayload"
  | .invalidName => "AGN0130InvalidName"
  | .ambiguousIdentifier => "AGN0200AmbiguousIdentifier"

def phase : Code → Phase
  | .parseError | .schemaVersionMismatch => .parse
  | .unsupportedItem | .duplicateDeclaration | .markerWithPayload | .invalidName => .validate
  | .ambiguousIdentifier => .resolve

/-- What a code means in general. -/
def message : Code → String
  | .parseError => "failed to parse schema"
  | .schemaVersionMismatch => "schema document version mismatch"
  | .unsupportedItem => "unsupported schema item"
  | .duplicateDeclaration => "declaration name defined twice"
  | .markerWithPayload => "marker attribute carries a payload"
  | .invalidName => "name is not a Rust identifier"
  | .ambiguousIdentifier => "more than one field marked as node id"

/-- What to do about a code. -/
def help : Code → Option String
  | .parseError =>
    some "Ensure the schema parses as Rust and contains only struct, enum and bitflags! items."
  | .markerWithPayload => some "Write #[node_id] / #[no_node_id] without arguments."
  | .invalidName =>
    some "Declaration names must be identifiers; field names identifiers or tuple indices."
  | .ambiguousIdentifier =>
    some ("Keep #[node_id] (\"identifier-field\") on exactly one field, or mark the record " ++
      "#[no_node_id] (\"no-identifier\").")
  | .schemaVersionMismatch | .unsupportedItem | .duplicateDeclaration => none

end Code

/-- What is wrong with a schema, and with which declaration. -/
structure Diagnostic where
  code : Code
  phase : Phase
  severity : Severity
  decl : Option String
  message : String
  help : Option String
  deriving DecidableEq, Repr

namespace Diagnostic

/-- The diagnostic of a code with a message of its own. -/
def error (code : Code) (message : String) : Diagnostic :=
  ⟨code, code.phase, .error, none, message, code.help⟩

/-- The same diagnostic about a declaration. -/
def withDecl (d : Diagnostic) (decl : String) : Diagnostic :=
  { d with decl := some decl }

/-- What is shown of a diagnostic: code, phase, severity and message, and on lines of their own the
declaration and the advice. -/
def parts (d : Diagnostic) : List String :=
  [d.code.number, " ", d.phase.name, " ", d.severity.name, ": ", d.message] ++
    (d.decl.map ("\n  in: " ++ ·)).toList ++ (d.help.map ("\n  help: " ++ ·)).toList

def render (d : Diagnostic) : String :=
  String.join d.parts

end Diagnostic

/-- Why nothing can be generated. -/
inductive Error
  /-- More than one field of a record is marked as its node id. -/
  | ambiguousIdentifier (record : String) (count : Nat)
  /-- The schema itself is refused. -/
  | schema (d : Diagnostic)
  deriving DecidableEq, Repr

namespace Error

def message : Error → String
  | .ambiguousIdentifier record count =>
    "record " ++ record ++ " has " ++ toString count ++
      " fields marked as node id (expected 0 or 1)"
  | .schema d => d.render

def diagnostic : Error → Diagnostic
  | .ambiguousIdentifier record count =>
    (Diagnostic.error .ambiguousIdentifier
      (ambiguousIdentifier record count).message).withDecl record
  | .schema d => d

end Error

end NodeIdGen
