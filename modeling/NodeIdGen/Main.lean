import NodeIdGen.Cli.Clock
import NodeIdGen.Cli.Run
import Std.Time.Zoned

/-!
# The program

The command line over the file system: arguments, the log's setting and the clock go in; the output,
the log, a failure and the exit status come out.

## What is left out

Theorems about runs are about `run` over a tree (`Files.ofTree`). They say nothing of

* working directories, links, permissions and other limits of a file system (`Cli.Tree`);
* output that cannot be printed, and when the clock is read (`Cli.Run`);
* settings of the log with directives about spans and fields (`Generate.Filter`), and the times and
  colours of its lines;
* the places in a text that messages about JSON end with (`Json.Fault`);
* the words in which a source as a whole is refused (`Syntax.Fault`), and those in which help is
  given or arguments are refused (`Cli.Usage`);
* arguments, settings and paths that are not Unicode.
-/

namespace NodeIdGen.Cli

/-- The fault of an error number of the system, of either sign, with the system's words for it. -/
def faultOfNumber (number : UInt32) (words : String) : FileFault :=
  match number.toInt32.toInt.natAbs with
  | 2 => .notFound
  | 17 => .exists
  | 20 => .notDirectory
  | 21 => .isDirectory
  | 36 => .nameTooLong
  | n => .other (words.capitalize ++ " (os error " ++ toString n ++ ")")

/-- The fault that an error of the system stands for. -/
def faultOf (e : IO.Error) : FileFault :=
  match e with
  | .noFileOrDirectory _ n words | .interrupted _ n words => faultOfNumber n words
  | .alreadyExists _ n words | .invalidArgument _ n words | .permissionDenied _ n words
  | .resourceExhausted _ n words | .inappropriateType _ n words | .noSuchThing _ n words =>
    faultOfNumber n words
  | .otherError n words | .resourceBusy n words | .resourceVanished n words
  | .unsupportedOperation n words | .hardwareFault n words | .unsatisfiedConstraints n words
  | .illegalOperation n words | .protocolError n words | .timeExpired n words =>
    faultOfNumber n words
  | .unexpectedEof | .userError _ => .other (toString e)

/-- The result of using a path, with a fault in place of an error of the system. -/
def attempt {α : Type} (path : String) (use : IO α) : IO (Except FileFault α) := do
  if path.toList.contains '\x00' then
    return .error .zeroInPath
  match ← use.toBaseIO with
  | .ok a => return .ok a
  | .error e => return .error (faultOf e)

/-- Files in the file system. A directory is known by the fault of reading it. -/
def systemFiles : Files IO where
  read path := attempt path (IO.FS.readBinFile path)
  write path content := attempt path (IO.FS.writeBinFile path content)
  makeDirectory path := attempt path (IO.FS.createDir path)
  isDirectory path := do
    match ← attempt path (IO.FS.readBinFile path) with
    | .error .isDirectory => return true
    | _ => return false

/-- A date and time of the clock, to the microsecond. -/
def instantOf (t : Std.Time.PlainDateTime) : Instant where
  year := t.date.year.toInt.toNat
  month := t.date.month.val.toNat
  day := t.date.day.val.toNat
  hour := t.time.hour.val.toNat
  minute := t.time.minute.val.toNat
  second := t.time.second.val.toNat
  micro := t.time.nanosecond.val.toNat / 1000

/-- Runs the program and gives its exit status. -/
def runProgram (args : List String) : IO UInt32 := do
  let now := instantOf (← Std.Time.PlainDateTime.now)
  let setting ← IO.getEnv "ASTGEN_LOG"
  let result ← run systemFiles now.stamp setting args
  IO.print result.output
  for line in result.log do
    IO.eprintln (now.logStamp ++ " " ++ line)
  match result.failure with
  | some f => IO.eprintln f.message
  | none =>
    if result.status = 2 then
      IO.eprint (endLines refusal)
  return result.status.toUInt32

end NodeIdGen.Cli

def main (args : List String) : IO UInt32 :=
  NodeIdGen.Cli.runProgram args
