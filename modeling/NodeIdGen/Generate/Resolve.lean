import NodeIdGen.Diagnostic.Basic
import NodeIdGen.Schema.Declaration

/-!
# The node id of a record

A record without node id says so by a marker. Otherwise a marked field is the node id, more than one
is an error, and without any it is the first field that is called `id`.
-/

namespace NodeIdGen.Generate

open NodeIdGen.Schema

def isMarked (f : Field) : Bool :=
  f.attrs.contains identifierField

/-- The field is called `id`, in one of the two spellings. -/
def isCalledId (f : Field) : Bool :=
  f.name == "id" || f.name == "r#id"

/-- The name of the field that is the record's node id, if it has one. -/
def nodeId? (r : Record) : Except Error (Option String) :=
  if r.attrs.contains noIdentifier then
    .ok none
  else
    match r.fields.filter isMarked with
    | [] => .ok ((r.fields.find? isCalledId).map Field.name)
    | [f] => .ok (some f.name)
    | marked => .error (.ambiguousIdentifier r.name marked.length)

end NodeIdGen.Generate
