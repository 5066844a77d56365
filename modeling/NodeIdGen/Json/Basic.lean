import NodeIdGen.Decimal.Shortest

/-!
# JSON values

A value as a text gives it: the members of an object keep their order, and a name may occur twice.
`canonical` is the value as a document holds it, with the members sorted by name and the last of
equal names kept.
-/

namespace NodeIdGen

namespace Json

/-- A number: a whole one within 64 bits, or a double. -/
inductive Number
  /-- A whole number from zero on. -/
  | natural (n : Nat)
  /-- The negative of a whole number. -/
  | negative (n : Nat)
  | double (bits : UInt64)
  deriving DecidableEq, Repr

/-- Doubles are positional from 0.0001 on and below 10 ^ 16, and have a fraction or an exponent of
two digits or more. -/
def doubleLayout : Decimal.Layout := ⟨-4, 15, 2⟩

end Json

inductive Json
  | null
  | bool (b : Bool)
  | number (n : Json.Number)
  | string (s : String)
  | array (items : List Json)
  | object (members : List (String × Json))
  deriving Repr

namespace Json

/-- A whole number as a value. -/
def nat (n : Nat) : Json :=
  .number (.natural n)

/-- Puts a member into members that are sorted by name, in the place of one with the same name. -/
def insertMember (name : String) (v : Json) : List (String × Json) → List (String × Json)
  | [] => [(name, v)]
  | (n, w) :: ms =>
    if name < n then (name, v) :: (n, w) :: ms
    else if name = n then (name, v) :: ms
    else (n, w) :: insertMember name v ms

/-- Members sorted by name, the last of equal names kept. -/
def sortMembers (ms : List (String × Json)) : List (String × Json) :=
  ms.foldl (fun sorted (n, v) => insertMember n v sorted) []

mutual

/-- The value with the members of each object sorted by name. -/
def canonical : Json → Json
  | .array items => .array (canonicalItems items)
  | .object members => .object (sortMembers (canonicalMembers members))
  | v => v

def canonicalItems : List Json → List Json
  | [] => []
  | v :: vs => v.canonical :: canonicalItems vs

def canonicalMembers : List (String × Json) → List (String × Json)
  | [] => []
  | (n, v) :: ms => (n, v.canonical) :: canonicalMembers ms

end

/-- The member of the name, if the value is an object that has one. -/
def member? (v : Json) (name : String) : Option Json :=
  match v with
  | .object members => members.lookup name
  | _ => none

end Json

end NodeIdGen
