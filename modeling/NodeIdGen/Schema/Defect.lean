import NodeIdGen.Diagnostic.Basic
import NodeIdGen.Json.Fault
import NodeIdGen.Schema.Declaration
import NodeIdGen.Syntax.Fault

/-!
# What is wrong with a schema

A defect is the cause, and `Defect.diagnostic` how it is reported: its code, its wording, and the
declaration that has it.
-/

namespace NodeIdGen.Schema

def documentVersion : String := "astgen.schema@0.1.0"

inductive Defect
  /-- A source text is not a file of the language. -/
  | source (f : Syntax.Fault)
  /-- The content of a flag block does not fit. -/
  | flagBlock (f : Syntax.Fault)
  /-- A document is not JSON, or not of the wanted form. -/
  | document (f : Json.Fault)
  /-- A document is of another version. -/
  | version (found : String)
  /-- A structure has generic parameters. -/
  | genericRecord (decl : String)
  /-- An item is no declaration; `kind` names what it is. -/
  | unsupported (kind : String) (decl : Option String)
  /-- A marker has arguments. -/
  | payload (marker decl : String)
  /-- A declaration's name is no identifier. -/
  | declarationName (decl : String)
  /-- A field's name is neither an identifier nor a position. -/
  | fieldName (field decl : String)
  /-- A name is declared more than once. -/
  | duplicate (decl : String)
  deriving DecidableEq

namespace Defect

def code : Defect → Code
  | source _ | flagBlock _ | document _ => .parseError
  | version _ => .schemaVersionMismatch
  | genericRecord _ | unsupported _ _ => .unsupportedItem
  | payload _ _ => .markerWithPayload
  | declarationName _ | fieldName _ _ => .invalidName
  | duplicate _ => .duplicateDeclaration

def message : Defect → String
  | source f => f.message
  | flagBlock f => "bitflags!: " ++ f.message
  | document f => "invalid schema JSON: " ++ f.message
  | version found =>
    "schema_version mismatch: expected " ++ documentVersion ++ " got " ++ Text.quoted found
  | genericRecord _ => "generic structs are not supported"
  | unsupported kind _ => "unsupported top-level item: " ++ kind
  | payload marker _ => "#[" ++ marker ++ "] takes no arguments"
  | declarationName decl => "declaration name " ++ Text.quoted decl ++ " is not an identifier"
  | fieldName field _ =>
    "field name " ++ Text.quoted field ++ " is not an identifier or tuple index"
  | duplicate decl => "declaration " ++ decl ++ " is defined more than once"

/-- The declaration that has the defect, if it is known. -/
def decl? : Defect → Option String
  | source _ | flagBlock _ | document _ | version _ => none
  | unsupported _ decl => decl
  | genericRecord decl | payload _ decl | declarationName decl | fieldName _ decl
  | duplicate decl => some decl

def diagnostic (d : Defect) : Diagnostic :=
  { Diagnostic.error d.code d.message with decl := d.decl? }

end Defect

end NodeIdGen.Schema
