import NodeIdGen.Json.Decode
import NodeIdGen.Json.Reader
import NodeIdGen.Schema.Declaration

/-!
# Declarations as JSON

A declaration is written as an object with every field of its kind. It is read from such an object,
in which all fields but the name may be missing, or from an array in the order of the fields, in
which the last ones may be missing. The kind of a declaration is a field among the others, or the
first item. Names that are not fields are refused.
-/

namespace NodeIdGen.Schema

open NodeIdGen.Json

/-! ## Writing -/

/-- The markers in ascending order. -/
def AttrSet.encode (s : AttrSet) : Json :=
  .array (s.items.map .string)

def Field.encode (f : Field) : Json :=
  .object [("name", .string f.name), ("attrs", f.attrs.encode)]

/-- The members of an object for a declaration whose parts are given. -/
def encodeMembers (name : String) (attrs : AttrSet) (partsName : String) (parts : List Json) :
    List (String × Json) :=
  [("name", .string name), ("attrs", attrs.encode), (partsName, .array parts)]

def Record.members (r : Record) : List (String × Json) :=
  encodeMembers r.name r.attrs "fields" (r.fields.map Field.encode)

def Variant.members (v : Variant) : List (String × Json) :=
  encodeMembers v.name v.attrs "variants" (v.variants.map .string)

def FlagSet.members (f : FlagSet) : List (String × Json) :=
  encodeMembers f.name f.attrs "flags" (f.flags.map .string)

/-- A declaration as an object that starts with its kind. -/
def Declaration.encode (d : Declaration) : Json :=
  .object (("kind", .string d.kind.name) ::
    match d with
    | .record r => r.members
    | .variant v => v.members
    | .flagSet f => f.members)

/-! ## Reading -/

def AttrSet.decode (v : Json) : Except Fault AttrSet :=
  AttrSet.ofList <$> asItems asText v

/-- A field whose parts are known as far as they were read. -/
structure FieldDraft where
  name : Option String := none
  attrs : Option AttrSet := none

/-- One more member of a field. -/
def FieldDraft.add (d : FieldDraft) (member : String × Json) : Except Fault FieldDraft := do
  match member.1 with
  | "name" => return { d with name := ← storeOnce "name" d.name (asText member.2) }
  | "attrs" => return { d with attrs := ← storeOnce "attrs" d.attrs (AttrSet.decode member.2) }
  | other => throw (.data (.unknownField other ["name", "attrs"]))

def Field.decode (surplus : Surplus) (v : Json) : Except Fault Field := do
  match v with
  | .object members =>
    let d ← members.foldlM FieldDraft.add {}
    match d.name with
    | some name => return ⟨name, d.attrs.getD ∅⟩
    | none => missing "name"
  | .array [] => tooShort 0 "struct Field with 2 elements"
  | .array (name :: rest) =>
    let name ← asText name
    let attrs ← match rest with
      | [] => pure ∅
      | attrs :: _ => AttrSet.decode attrs
    endOfItems surplus 2 (rest.length + 1)
    return ⟨name, attrs⟩
  | v => mismatch v "struct Field"

/-- The form that the three kinds of declarations share: a name, markers and parts. -/
structure Form (α : Type) where
  /-- How messages name the structure. -/
  title : String
  /-- The name of the field that holds the parts. -/
  partsName : String
  /-- How a part is read. -/
  part : Json → Except Fault α

/-- A declaration whose parts are known as far as they were read. -/
structure Draft (α : Type) where
  name : Option String := none
  attrs : Option AttrSet := none
  parts : Option (List α) := none

namespace Form

variable {α : Type}

def add (f : Form α) (d : Draft α) (member : String × Json) : Except Fault (Draft α) := do
  if member.1 = "name" then
    return { d with name := ← storeOnce "name" d.name (asText member.2) }
  else if member.1 = "attrs" then
    return { d with attrs := ← storeOnce "attrs" d.attrs (AttrSet.decode member.2) }
  else if member.1 = f.partsName then
    return { d with parts := ← storeOnce f.partsName d.parts (asItems f.part member.2) }
  else
    throw (.data (.unknownField member.1 ["name", "attrs", f.partsName]))

/-- The name, the markers and the parts of a declaration. -/
def decode (f : Form α) (surplus : Surplus) (v : Json) :
    Except Fault (String × AttrSet × List α) := do
  match v with
  | .object members =>
    let d ← members.foldlM f.add {}
    match d.name with
    | some name => return (name, d.attrs.getD ∅, d.parts.getD [])
    | none => missing "name"
  | .array [] => tooShort 0 (f.title ++ " with 3 elements")
  | .array (name :: rest) =>
    let name ← asText name
    let attrs ← match rest with
      | [] => pure ∅
      | attrs :: _ => AttrSet.decode attrs
    let parts ← match rest with
      | _ :: parts :: _ => asItems f.part parts
      | _ => pure []
    endOfItems surplus 3 (rest.length + 1)
    return (name, attrs, parts)
  | v => mismatch v f.title

end Form

def Record.decode (surplus : Surplus) (v : Json) : Except Fault Record := do
  let (name, attrs, fields) ←
    (⟨"struct Record", "fields", Field.decode surplus⟩ : Form Field).decode surplus v
  return ⟨name, attrs, fields⟩

def Variant.decode (surplus : Surplus) (v : Json) : Except Fault Variant := do
  let (name, attrs, variants) ←
    (⟨"struct Variant", "variants", asText⟩ : Form String).decode surplus v
  return ⟨name, attrs, variants⟩

def FlagSet.decode (surplus : Surplus) (v : Json) : Except Fault FlagSet := do
  let (name, attrs, flags) ←
    (⟨"struct FlagSet", "flags", asText⟩ : Form String).decode surplus v
  return ⟨name, attrs, flags⟩

/-! ## The kind among the fields -/

def Kind.ofName (name : String) : Except Fault Kind :=
  match name with
  | "record" => .ok .record
  | "variant" => .ok .variant
  | "flag_set" => .ok .flagSet
  | other => .error (.data (.unknownVariant other ["record", "variant", "flag_set"]))

/-- The fields of a declaration of a known kind. -/
def Kind.decode (k : Kind) (v : Json) : Except Fault Declaration :=
  match k with
  | .record => .record <$> Record.decode .ofBuffer v
  | .variant => .variant <$> Variant.decode .ofBuffer v
  | .flagSet => .flagSet <$> FlagSet.decode .ofBuffer v

/-- How messages name what the kind of a declaration is wanted for. -/
def kindWanted : String := "variant identifier"

/-- How messages name a declaration. -/
def declarationWanted : String := "internally tagged enum Declaration"

def Kind.ofValue (v : Json) : Except Fault Kind :=
  match v with
  | .string name => Kind.ofName name
  | v => mismatch v kindWanted

/-- Sets the kind apart from the other members. -/
def splitKind (found : Option Kind × List (String × Json)) (member : String × Json) :
    Except Fault (Option Kind × List (String × Json)) := do
  if member.1 = "kind" then
    return (← storeOnce "kind" found.1 (Kind.ofValue member.2), found.2)
  else
    return (found.1, member :: found.2)

def Declaration.decode (v : Json) : Except Fault Declaration := do
  match v with
  | .object members =>
    match ← members.foldlM splitKind (none, []) with
    | (some k, others) => k.decode (.object others.reverse)
    | (none, _) => missing "kind"
  | .array [] => missing "kind"
  | .array (k :: rest) => (← Kind.ofValue k).decode (.array rest)
  | v => mismatch v declarationWanted

/-! ## Reading from a text -/

open Reader in
def Kind.read : Reader Kind := do
  Kind.ofName (← stringFor kindWanted)

open Reader in
/-- One more member of a declaration: the kind is read at once, other values as they are. -/
def Declaration.readMember (depth : Nat) (found : Option Kind × List (String × Json))
    (name : String) : Reader (Option Kind × List (String × Json)) := do
  if name = "kind" then
    if found.1.isSome then
      refuse (.duplicateField "kind")
    else
      colon
      return (some (← Kind.read), found.2)
  else
    colon
    return (found.1, (name, ← value depth) :: found.2)

open Reader in
/-- The items of a declaration behind the kind. -/
def Declaration.readItems (depth : Nat) : Reader (Kind × Json) := do
  match ← item? true Kind.read with
  | some k =>
    let rest ← itemRounds (value depth) ((← get).length + 1) false
    return (k, .array rest)
  | none => refuse (.missingField "kind")

open Reader in
/-- The members of a declaration, the kind apart. -/
def Declaration.readMembers (depth : Nat) : Reader (Kind × Json) := do
  match ← memberRounds (readMember depth) ((← get).length + 1) true (none, []) with
  | (some k, others) =>
    skipOne
    return (k, .object others.reverse)
  | (none, _) => refuse (.missingField "kind")

open Reader in
/-- A declaration, nested less than so deep. -/
def Declaration.read (depth : Nat) : Reader Declaration := do
  let (k, v) ← structured depth declarationWanted readItems readMembers
  k.decode v

end NodeIdGen.Schema
