import NodeIdGen.Cli.Args
import NodeIdGen.Json.Reader

/-!
# Manifests

A manifest lists the jobs of a batch, with one time stamp for all of them or none. Names that are
not fields are passed over, whatever their values.
-/

namespace NodeIdGen.Cli

open NodeIdGen.Json

def manifestVersion : String := "astgen.manifest@0.1.0"

structure Manifest where
  version : String
  timestamp : Option String
  jobs : List Job
  deriving DecidableEq, Repr

namespace Manifest

open Reader

/-- A job whose parts are known as far as they were read. -/
structure JobDraft where
  schema : Option String := none
  out : Option String := none

/-- One more member of a job. -/
def readJobMember (d : JobDraft) (name : String) : Reader JobDraft := do
  if name = "schema" then
    if d.schema.isSome then
      refuse (.duplicateField name)
    colon
    return { d with schema := some (← text) }
  else if name = "out" then
    if d.out.isSome then
      refuse (.duplicateField name)
    colon
    return { d with out := some (← text) }
  else
    colon
    skip
    return d

def readJobMembers : Reader Job := do
  let d ← memberRounds readJobMember ((← get).length + 1) true {}
  match d.schema, d.out with
  | none, _ => refuse (.missingField "schema")
  | some _, none => refuse (.missingField "out")
  | some schema, some out =>
    skipOne
    return ⟨schema, out⟩

/-- The item of a structure given as an array, which has to be there. -/
def wantedItem {α : Type} (n : Nat) (expected : String) (item : Reader α) : Reader α := do
  match ← item? (n = 0) item with
  | some a => return a
  | none => refuse (.invalidLength n expected)

def readJobItems : Reader Job := do
  let wanted := "struct ManifestEntry with 2 elements"
  let schema ← wantedItem 0 wanted text
  let out ← wantedItem 1 wanted text
  return ⟨schema, out⟩

def readJob (depth : Nat) : Reader Job :=
  structured depth "struct ManifestEntry" (fun _ => readJobItems) (fun _ => readJobMembers)

/-- A manifest whose parts are known as far as they were read. -/
structure Draft where
  version : Option String := none
  timestamp : Option (Option String) := none
  jobs : Option (List Job) := none

def readMember (depth : Nat) (d : Draft) (name : String) : Reader Draft := do
  if name = "schema_version" then
    if d.version.isSome then
      refuse (.duplicateField name)
    colon
    return { d with version := some (← text) }
  else if name = "timestamp" then
    if d.timestamp.isSome then
      refuse (.duplicateField name)
    colon
    return { d with timestamp := some (← optionalText) }
  else if name = "entries" then
    if d.jobs.isSome then
      refuse (.duplicateField name)
    colon
    return { d with jobs := some (← sequence depth readJob) }
  else
    colon
    skip
    return d

def readMembers (depth : Nat) : Reader Manifest := do
  let d ← memberRounds (readMember depth) ((← get).length + 1) true {}
  match d.version, d.jobs with
  | none, _ => refuse (.missingField "schema_version")
  | some _, none => refuse (.missingField "entries")
  | some version, some jobs =>
    skipOne
    return ⟨version, d.timestamp.getD none, jobs⟩

/-- The items of a manifest; without a time stamp there are no jobs either. -/
def readItems (depth : Nat) : Reader Manifest := do
  let wanted := "struct Manifest with 3 elements"
  let version ← wantedItem 0 wanted text
  let timestamp ← item? false optionalText
  let jobs ← wantedItem 2 wanted (sequence depth readJob)
  return ⟨version, timestamp.getD none, jobs⟩

def read : Reader Manifest :=
  structured depthLimit "struct Manifest" readItems readMembers

def parse (text : Symbols) : Except Fault Manifest :=
  read.run text

end Manifest

end NodeIdGen.Cli
