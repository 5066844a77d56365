import NodeIdGen.Schema.Codec
import NodeIdGen.Schema.Names
import NodeIdGen.Text.Blank

/-!
# Schema documents

A schema document is a JSON object with a version and the declarations. After it is read, its
version is checked, then the names, then that no name is declared twice.
-/

namespace NodeIdGen.Schema

open NodeIdGen.Json

structure Document where
  version : String
  decls : List Declaration

/-- A document whose parts are known as far as they were read. -/
structure DocumentDraft where
  version : Option String := none
  decls : Option (List Declaration) := none

namespace Document

/-- The names of the fields. -/
def fieldNames : List String := ["schema_version", "decls"]

def encode (d : Document) : Json :=
  .object
    [("schema_version", .string d.version), ("decls", .array (d.decls.map Declaration.encode))]

open Reader in
def readMember (depth : Nat) (d : DocumentDraft) (name : String) : Reader DocumentDraft := do
  if name = "schema_version" then
    if d.version.isSome then
      refuse (.duplicateField name)
    colon
    return { d with version := some (← text) }
  else if name = "decls" then
    if d.decls.isSome then
      refuse (.duplicateField name)
    colon
    return { d with decls := some (← sequence depth Declaration.read) }
  else
    refuse (.unknownField name fieldNames)

open Reader in
/-- The document whose fields were all read. -/
def finish (d : DocumentDraft) : Reader Document := do
  match d.version, d.decls with
  | none, _ => refuse (.missingField "schema_version")
  | some _, none => refuse (.missingField "decls")
  | some version, some decls =>
    skipOne
    return ⟨version, decls⟩

open Reader in
def readMembers (depth : Nat) : Reader Document := do
  finish (← memberRounds (readMember depth) ((← get).length + 1) true {})

/-- How messages name a document given as an array. -/
def itemsWanted : String := "struct SchemaDoc with 2 elements"

open Reader in
def readItems (depth : Nat) : Reader Document := do
  match ← item? true text with
  | none => refuse (.invalidLength 0 itemsWanted)
  | some version =>
    match ← item? false (sequence depth Declaration.read) with
    | none => refuse (.invalidLength 1 itemsWanted)
    | some decls => return ⟨version, decls⟩

def read : Reader Document :=
  Reader.structured depthLimit "struct SchemaDoc" readItems readMembers

def parse (text : String) : Except Fault Document :=
  read.run (symbols text)

end Document

/-- White space at the two ends of a version does not count. -/
def isVersion (wanted found : String) : Bool :=
  Text.trim found.toList = wanted.toList

/-- The declarations of a schema document. -/
def ofDocument (text : String) : Except Defect (List Declaration) := do
  let d ← (Document.parse text).mapError .document
  if !isVersion documentVersion d.version then
    throw (.version d.version)
  checkNames d.decls
  checkUnique d.decls
  return d.decls

end NodeIdGen.Schema
