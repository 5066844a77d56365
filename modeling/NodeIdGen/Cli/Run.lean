import NodeIdGen.Cli.Failure
import NodeIdGen.Cli.Files
import NodeIdGen.Cli.Usage
import NodeIdGen.Diagnostic.Catalog
import NodeIdGen.Generate.Filter
import NodeIdGen.Generate.Report
import NodeIdGen.Json.Printer
import NodeIdGen.Schema.Document
import NodeIdGen.Schema.Source
import NodeIdGen.Text.Utf8

/-!
# Running commands

What a command prints and tells, and why it fails if it does, is its `Outcome`. A batch is its jobs
one after the other, up to the first that fails.

Output is only gathered here, so that printing a report line cannot fail; a program whose output is
closed would stop there, with the document written. The time is one argument for a whole run, so
that it does not matter when the clock is read, or whether it is read at all.
-/

namespace NodeIdGen.Cli

open NodeIdGen.Generate
open NodeIdGen.Schema

/-- What a command prints, tells, and why it fails if it does. -/
structure Outcome where
  output : String := ""
  events : List Event := []
  failure : Option Failure := none
  deriving DecidableEq

/-- The outcome of something done after something else that did not fail. -/
def Outcome.append (a b : Outcome) : Outcome :=
  ⟨a.output ++ b.output, a.events ++ b.events, b.failure⟩

def reportVersion : String := "astgen.report@0.1.0"

def encodeAccessor (a : Accessor) : Json :=
  .object [("field", .string a.field), ("record", .string a.record)]

/-- A report as a value, with its members in ascending order. -/
def encodeReport (out : String) (r : Report) : Json :=
  .object
    [("accessors", .array (r.accessors.map encodeAccessor)),
     ("body_sha256", .string (bodyDigest r.document)),
     ("declarations", .nat r.declarations), ("ok", .bool true), ("out", .string out),
     ("records", .nat r.records), ("schema_version", .string reportVersion)]

/-- The line that tells of a run that came to its end. -/
def reportLine (out : String) (r : Report) : String :=
  (encodeReport out r).render ++ "\n"

/-- The path is that of a schema document and not of a source. -/
def isDocumentPath (path : String) : Bool :=
  extension? path == some "json"

/-- The declarations of a schema, and the event that tells of them. -/
def loadText (path text : String) : Except Defect (List Declaration × Event) := do
  if isDocumentPath path then
    let ds ← ofDocument text
    return (ds, .documentLoaded ds.length)
  else
    let ds ← ofSource text
    return (ds, .sourceLoaded ds.length)

/-- The content of a file as text. -/
def asText (content : Except FileFault ByteArray) : Except FileFault String :=
  content.bind fun bytes =>
    match String.fromUTF8? bytes with
    | some s => .ok s
    | none => .error .notText

/-- The declarations in the content of a schema file. -/
def load (path : String) (content : Except FileFault ByteArray) :
    Except Failure (List Declaration × Event) :=
  match asText content with
  | .error f => .error (.readSchema path f)
  | .ok text => (loadText path text).mapError fun defect => .loadSchema path defect.diagnostic

section

variable {m : Type → Type} [Monad m] (fs : Files m)

/-- Compares the output with a document, the lines of their time stamps apart. -/
def checkOutput (out document : String) : m (Except Failure Event) := do
  match asText (← fs.read out) with
  | .error f => return .error (.readOutput out f)
  | .ok current =>
    if body? current = body? document then return .ok (.upToDate out)
    else return .error (.outputDiffers out)

/-- Makes the directory that the output is to stand in. -/
def makeParent (out : String) : m (Except Failure Unit) :=
  match parent? out with
  | none => return .ok ()
  | some parent => do
    return (← createDirectories fs parent).mapError (.makeDirectory parent)

def writeOutput (out document : String) : m (Except Failure Event) := do
  match ← makeParent fs out with
  | .error f => return .error f
  | .ok () =>
    match ← fs.write out document.toUTF8 with
    | .error f => return .error (.writeOutput out f)
    | .ok () => return .ok (.written out document.utf8ByteSize)

/-- Generates the accessors of one schema and writes or checks one output. -/
def runJob (job : Job) (check : Bool) (timestamp : String) : m Outcome := do
  match load job.schema (← fs.read job.schema) with
  | .error f => return { failure := some f }
  | .ok (ds, loaded) =>
    let told := loaded :: Generate.events ds
    match report ds timestamp with
    | .error e => return { events := told, failure := some (.generate job.schema e.diagnostic) }
    | .ok r =>
      let stored ←
        if check then checkOutput fs job.out r.document else writeOutput fs job.out r.document
      match stored with
      | .error f => return { events := told, failure := some f }
      | .ok event => return { output := reportLine job.out r, events := told ++ [event] }

/-- Runs jobs one after the other, up to the first that fails; the first has the given position. -/
def runJobs (check : Bool) (timestamp : String) : Nat → List Job → m Outcome
  | _, [] => return {}
  | n, job :: jobs => do
    let first ← runJob fs job check timestamp
    match first.failure with
    | some f => return { first with failure := some (.job n f) }
    | none => return first.append (← runJobs check timestamp (n + 1) jobs)

def loadManifest (path : String) (content : Except FileFault ByteArray) :
    Except Failure Manifest := do
  let bytes ← content.mapError (.readManifest path)
  let m ← (Manifest.parse (Text.charsOfBytes bytes)).mapError (.parseManifest path)
  if isVersion manifestVersion m.version then
    return m
  else
    throw (.manifestVersion m.version)

/-- Runs the jobs of a manifest; without a time stamp of its own all get the time given. -/
def runBatch (manifest : String) (check : Bool) (now : String) : m Outcome := do
  match loadManifest manifest (← fs.read manifest) with
  | .error f => return { failure := some f }
  | .ok l => runJobs fs check (l.timestamp.getD now) 0 l.jobs

/-- Runs a command at the given time. -/
def runCommand (c : Command) (now : String) : m Outcome :=
  match c with
  | .nodeIds job check timestamp => runJob fs job check (timestamp.getD now)
  | .batch manifest check => runBatch fs manifest check now
  | .diagnostics => return { output := catalog }
  | .help topic => return { output := topic.text }

end

/-- What a run leaves: its exit status, what it prints, the lines of its log, and why it failed. -/
structure Result where
  status : Nat
  output : String
  log : List String
  failure : Option Failure
  deriving DecidableEq

/-- The filter of a run's log. A setting that cannot be read counts for nothing. -/
def logFilter (setting : Option String) (verbose : Bool) : Filter :=
  (setting.bind Filter.ofSetting?).getD (.standard verbose)

/-- Runs the program with arguments at the given time; `setting` is the log's own setting. Arguments
that cannot be understood have the exit status 2. -/
def run {m : Type → Type} [Monad m] (fs : Files m) (now : String) (setting : Option String)
    (args : List String) : m Result :=
  match parseArgs? args with
  | none => return ⟨2, "", [], none⟩
  | some request => do
    let o ← runCommand fs request.command now
    return ⟨if o.failure.isSome then 1 else 0, o.output,
      (logFilter setting request.verbose).lines o.events, o.failure⟩

end NodeIdGen.Cli
