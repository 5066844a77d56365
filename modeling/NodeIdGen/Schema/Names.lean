import NodeIdGen.Schema.Defect
import NodeIdGen.Syntax.File

/-!
# Names

Names reach the generated text as they are. The name of a declaration has to be an identifier, the
name of a field an identifier or a position, and no name may be declared twice.
-/

namespace NodeIdGen.Schema

open NodeIdGen.Syntax

/-- The text is a position: a decimal number without leading zeros. -/
def isPosition (s : String) : Bool :=
  s == "0" ||
    match s.toList with
    | [] => false
    | c :: cs => c ≠ '0' && c.isDigit && cs.all Char.isDigit

/-- The name may stand for a field. -/
def isFieldName (s : String) : Bool :=
  isIdentifier s || isPosition s

/-- The first field of a record whose name is neither an identifier nor a position. -/
def badField? (r : Record) : Option Field :=
  r.fields.find? fun f => !isFieldName f.name

/-- What is wrong with the names of a declaration. -/
def nameDefect? (d : Declaration) : Option Defect :=
  if isIdentifier d.name then
    match d with
    | .record r => (badField? r).map fun f => .fieldName f.name r.name
    | .variant _ | .flagSet _ => none
  else
    some (.declarationName d.name)

/-- The first name that one of the names before it equals; `seen` are the names before all. -/
def firstRepeated? (seen : List String) : List String → Option String
  | [] => none
  | n :: ns => if n ∈ seen then some n else firstRepeated? (n :: seen) ns

/-- All names are fit to be written out. -/
def checkNames (ds : List Declaration) : Except Defect Unit :=
  match ds.findSome? nameDefect? with
  | some defect => .error defect
  | none => .ok ()

/-- No name is declared twice. -/
def checkUnique (ds : List Declaration) : Except Defect Unit :=
  match firstRepeated? [] (ds.map Declaration.name) with
  | some name => .error (.duplicate name)
  | none => .ok ()

end NodeIdGen.Schema
