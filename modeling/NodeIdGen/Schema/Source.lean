import NodeIdGen.Schema.Names
import NodeIdGen.Syntax.Bitflags

/-!
# Schemas in source form

In a source file, structures are records, enumerations are variants, and the entries of flag blocks
are flag sets; imports are passed over and every other item is refused. Attributes become markers:
`node_id` and `no_node_id` are the two with a meaning, documentation is dropped, and every other
attribute is a marker named by its path.
-/

namespace NodeIdGen.Schema

open NodeIdGen.Syntax

/-- The marker that an attribute stands for; documentation stands for none. -/
def marker? (a : Attribute) (decl : String) : Except Defect (Option String) :=
  if a.path.isName "doc" then .ok none
  else if a.path.isName "node_id" then
    if a.payload then .error (.payload "node_id" decl) else .ok (some identifierField)
  else if a.path.isName "no_node_id" then
    if a.payload then .error (.payload "no_node_id" decl) else .ok (some noIdentifier)
  else .ok (some a.path.text)

def markers (attrs : List Attribute) (decl : String) : Except Defect AttrSet := do
  let ms ← attrs.mapM (marker? · decl)
  return .ofList (ms.filterMap id)

/-- The fields of a record from the given position on; a field without a name is named by its
position. -/
def recordFields (decl : String) : Nat → List FieldDecl → Except Defect (List Field)
  | _, [] => .ok []
  | n, f :: fs => do
    let attrs ← markers f.attrs decl
    let rest ← recordFields decl (n + 1) fs
    return ⟨f.name.getD (toString n), attrs⟩ :: rest

/-- A structure as a record. -/
def ofStruct (d : StructDecl) : Except Defect Record := do
  if d.generic then
    throw (.genericRecord d.name)
  let attrs ← markers d.attrs d.name
  let fields ← recordFields d.name 0 d.fields
  return ⟨d.name, attrs, fields⟩

/-- An enumeration as a variant. -/
def ofEnum (d : EnumDecl) : Except Defect Variant := do
  return ⟨d.name, ← markers d.attrs d.name, d.alternatives⟩

/-- An entry of a flag block as a flag set. -/
def ofFlags (d : FlagDecl) : Except Defect FlagSet := do
  return ⟨d.name, ← markers d.attrs d.name, d.flags⟩

/-- The declarations that an item stands for. -/
def ofItem (i : Item) : Except Defect (List Declaration) := do
  match i with
  | .struct d => return [.record (← ofStruct d)]
  | .enum d => return [.variant (← ofEnum d)]
  | .useItem => return []
  | .invocation path content =>
    if path.lastName? = some "bitflags" then
      let entries ← (parseFlags content).mapError .flagBlock
      entries.mapM fun e => .flagSet <$> ofFlags e
    else
      throw (.unsupported "macro invocation" path.text)
  | .function name => throw (.unsupported "fn" name)
  | .typeAlias name => throw (.unsupported "type alias" name)
  | .union name => throw (.unsupported "union" name)
  | .trait name => throw (.unsupported "trait" name)
  | .constant name => throw (.unsupported "const" name)
  | .static name => throw (.unsupported "static" name)
  | .module name => throw (.unsupported "mod" name)
  | .implementation _ => throw (.unsupported "impl" none)
  | .other => throw (.unsupported "item" none)

/-- The declarations of the items of a file, in their order. -/
def ofItems (items : List Item) : Except Defect (List Declaration) := do
  return (← items.mapM ofItem).flatten

/-- The declarations of a source text. -/
def ofSource (text : String) : Except Defect (List Declaration) := do
  let items ← (parseFile text).mapError .source
  let ds ← ofItems items
  checkUnique ds
  return ds

end NodeIdGen.Schema
