import NodeIdGen.Cli.Manifest
import NodeIdGen.Cli.Tree
import NodeIdGen.Diagnostic.Basic

/-!
# Why a command fails

A failure is what was being done and the cause, which may again be a failure. In words it is the
causes from the outermost to the innermost.
-/

namespace NodeIdGen.Cli

inductive Failure
  | readSchema (path : String) (f : FileFault)
  | loadSchema (path : String) (d : Diagnostic)
  | generate (path : String) (d : Diagnostic)
  | readOutput (path : String) (f : FileFault)
  | outputDiffers (path : String)
  | makeDirectory (path : String) (f : FileFault)
  | writeOutput (path : String) (f : FileFault)
  | readManifest (path : String) (f : FileFault)
  | parseManifest (path : String) (f : Json.Fault)
  | manifestVersion (found : String)
  /-- The job at a position of a manifest fails. -/
  | job (position : Nat) (cause : Failure)
  deriving DecidableEq

namespace Failure

/-- What was being done with a path, and the cause. -/
def about (activity path cause : String) : String :=
  activity ++ ": " ++ path ++ ": " ++ cause

def message : Failure → String
  | readSchema path f => about "read schema" path f.message
  | loadSchema path d => about "load schema" path d.render
  | generate path d => about "generate node ids" path d.render
  | readOutput path f => about "read existing output" path f.message
  | outputDiffers path => "generated output differs: " ++ path
  | makeDirectory path f => about "create output dir" path f.message
  | writeOutput path f => about "write output" path f.message
  | readManifest path f => about "read manifest" path f.message
  | parseManifest path f => about "parse manifest JSON" path f.message
  | manifestVersion found =>
    "manifest schema_version mismatch: expected " ++ Cli.manifestVersion ++ " got " ++
      Text.quoted found
  | job position cause => "manifest entry[" ++ toString position ++ "]: " ++ cause.message

end Failure

end NodeIdGen.Cli
