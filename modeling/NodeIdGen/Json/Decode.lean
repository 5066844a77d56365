import NodeIdGen.Json.Fault

/-!
# Decoding values

Functions from values to what they stand for. A structure may be given as an object, whose members
may come in any order, or as an array in the order of the fields. How surplus items of an array are
reported depends on where the value comes from, which `Surplus` says.
-/

namespace NodeIdGen.Json

/-- How surplus items of an array are reported. -/
inductive Surplus
  /-- Values of a document: by all items of the array. -/
  | ofDocument
  /-- Values read ahead of knowing their form: by the items that were taken. -/
  | ofBuffer
  deriving DecidableEq, Repr

/-- A value of another type stands where `expected` is wanted. -/
def mismatch {α : Type} (v : Json) (expected : String) : Except Fault α :=
  .error (.data (.invalidType v.found expected))

def asText (v : Json) : Except Fault String :=
  match v with
  | .string s => .ok s
  | v => mismatch v "a string"

def asOptionalText (v : Json) : Except Fault (Option String) :=
  match v with
  | .null => .ok none
  | v => some <$> asText v

/-- Items, each decoded by `item`. -/
def asItems {α : Type} (item : Json → Except Fault α) (v : Json) : Except Fault (List α) :=
  match v with
  | .array items => items.mapM item
  | v => mismatch v "a sequence"

/-- "`n` elements". -/
def elements (n : Nat) : String :=
  toString n ++ (if n = 1 then " element" else " elements")

/-- Items that are left when `fields` fields have taken theirs from `total` items. -/
def endOfItems (surplus : Surplus) (fields total : Nat) : Except Fault Unit :=
  if total ≤ fields then .ok ()
  else
    match surplus with
    | .ofDocument => .error (.data (.invalidLength total "fewer elements in array"))
    | .ofBuffer => .error (.data (.invalidLength total (elements fields ++ " in sequence")))

/-- A field is missing from an object. -/
def missing {α : Type} (name : String) : Except Fault α :=
  .error (.data (.missingField name))

/-- An item is missing from an array of `n` items. -/
def tooShort {α : Type} (n : Nat) (expected : String) : Except Fault α :=
  .error (.data (.invalidLength n expected))

/-- The field's value is stored; a second value for one field is refused before it is decoded. -/
def storeOnce {α : Type} (name : String) (old : Option α) (new : Except Fault α) :
    Except Fault (Option α) :=
  match old with
  | some _ => .error (.data (.duplicateField name))
  | none => some <$> new

/-- One of some names, given as a string or as an object with the name and nothing. -/
def asVariant {α : Type} (variants : List (String × α)) (v : Json) : Except Fault α :=
  let named (name : String) : Except Fault α :=
    match variants.lookup name with
    | some a => .ok a
    | none => .error (.data (.unknownVariant name (variants.map (·.1))))
  match v with
  | .string name => named name
  | .object [(name, payload)] => do
    let a ← named name
    match payload with
    | .null => .ok a
    | payload => mismatch payload "unit"
  | .object _ => .error (.data (.invalidValue .object "map with a single key"))
  | v => mismatch v "string or map"

end NodeIdGen.Json
