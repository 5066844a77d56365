import NodeIdGen.Diagnostic.Basic
import NodeIdGen.Json.Decode

/-!
# Diagnostics as JSON

A diagnostic is written as an object with all its fields. In reading one, the declaration and the
advice may be missing and other names are passed over; an array has to hold all fields in order.
-/

namespace NodeIdGen

open NodeIdGen.Json

/-- A text or nothing. -/
def encodeOptional : Option String → Json
  | some s => .string s
  | none => .null

def Diagnostic.encode (d : Diagnostic) : Json :=
  .object
    [("code", .string d.code.name), ("phase", .string d.phase.name),
     ("severity", .string d.severity.name), ("decl", encodeOptional d.decl),
     ("message", .string d.message), ("help", encodeOptional d.help)]

def Code.decode (v : Json) : Except Fault Code :=
  asVariant (Code.all.map fun c => (c.name, c)) v

def Phase.decode (v : Json) : Except Fault Phase :=
  asVariant ([Phase.parse, .validate, .resolve].map fun p => (p.name, p)) v

def Severity.decode (v : Json) : Except Fault Severity :=
  asVariant ([Severity.error].map fun s => (s.name, s)) v

namespace Diagnostic

/-- A diagnostic whose fields are known as far as they were read. -/
structure Draft where
  code : Option Code := none
  phase : Option Phase := none
  severity : Option Severity := none
  decl : Option (Option String) := none
  message : Option String := none
  help : Option (Option String) := none

def Draft.add (d : Draft) (member : String × Json) : Except Fault Draft := do
  let v := member.2
  match member.1 with
  | "code" => return { d with code := ← storeOnce "code" d.code (Code.decode v) }
  | "phase" => return { d with phase := ← storeOnce "phase" d.phase (Phase.decode v) }
  | "severity" =>
    return { d with severity := ← storeOnce "severity" d.severity (Severity.decode v) }
  | "decl" => return { d with decl := ← storeOnce "decl" d.decl (asOptionalText v) }
  | "message" => return { d with message := ← storeOnce "message" d.message (asText v) }
  | "help" => return { d with help := ← storeOnce "help" d.help (asOptionalText v) }
  | _ => return d

/-- A field that has to be there. -/
def required {α : Type} (name : String) (a : Option α) : Except Fault α :=
  match a with
  | some a => .ok a
  | none => missing name

/-- The diagnostic whose fields were all read. -/
def Draft.finish (d : Draft) : Except Fault Diagnostic := do
  let code ← required "code" d.code
  let phase ← required "phase" d.phase
  let severity ← required "severity" d.severity
  let message ← required "message" d.message
  return ⟨code, phase, severity, d.decl.getD none, message, d.help.getD none⟩

/-- The item of an array in the place of a field. -/
def itemAt {α : Type} (items : List Json) (n : Nat) (decode : Json → Except Fault α) :
    Except Fault α :=
  match items[n]? with
  | some v => decode v
  | none => tooShort n "struct Diagnostic with 6 elements"

def decode (v : Json) : Except Fault Diagnostic := do
  match v with
  | .object members => (← members.foldlM Draft.add {}).finish
  | .array items =>
    let code ← itemAt items 0 Code.decode
    let phase ← itemAt items 1 Phase.decode
    let severity ← itemAt items 2 Severity.decode
    let decl ← itemAt items 3 asOptionalText
    let message ← itemAt items 4 asText
    let help ← itemAt items 5 asOptionalText
    endOfItems .ofDocument 6 items.length
    return ⟨code, phase, severity, decl, message, help⟩
  | v => mismatch v "struct Diagnostic"

end Diagnostic

end NodeIdGen
