/-!
# Arguments

The command line: an optional flag, a command, and its options. An option takes the next argument
or what follows `=`; none may be given twice.
-/

namespace NodeIdGen.Cli

/-- What is to be generated: from which schema to which output. -/
structure Job where
  schema : String
  out : String
  deriving DecidableEq, Repr

inductive CommandName
  | nodeIds
  | batch
  | diagnostics
  deriving DecidableEq, Repr

/-- What help is asked about. -/
inductive Topic
  | program
  | command (name : CommandName)
  /-- The command that shows help. -/
  | helpCommand
  deriving DecidableEq, Repr

/-- What the command line asks for. -/
inductive Command
  | nodeIds (job : Job) (check : Bool) (timestamp : Option String)
  | batch (manifest : String) (check : Bool)
  | diagnostics
  | help (topic : Topic)
  deriving DecidableEq, Repr

/-- A command, and whether its decisions are to be told. -/
structure Request where
  command : Command
  verbose : Bool
  deriving DecidableEq, Repr

/-- The options of a command line as far as they were read. -/
structure Options where
  schema : Option String := none
  out : Option String := none
  timestamp : Option String := none
  manifest : Option String := none
  check : Bool := false
  verbose : Bool := false
  deriving DecidableEq, Repr

namespace CommandName

def ofText? : String → Option CommandName
  | "node-ids" => some nodeIds
  | "batch" => some batch
  | "diagnostics" => some diagnostics
  | _ => none

/-- The options with a value that a command takes. -/
def valued : CommandName → List String
  | nodeIds => ["--schema", "--out", "--timestamp"]
  | batch => ["--manifest"]
  | diagnostics => []

/-- The command may be asked to check only. -/
def checks : CommandName → Bool
  | nodeIds | batch => true
  | diagnostics => false

end CommandName

namespace Options

/-- The value of an option that has none yet; a path may not be empty. -/
def setValue? (o : Options) (name value : String) : Option Options :=
  let fresh (old : Option String) : Option String :=
    if old.isSome || value = "" then none else some value
  match name with
  | "--schema" => (fresh o.schema).map fun v => { o with schema := some v }
  | "--out" => (fresh o.out).map fun v => { o with out := some v }
  | "--manifest" => (fresh o.manifest).map fun v => { o with manifest := some v }
  | "--timestamp" => if o.timestamp.isSome then none else some { o with timestamp := some value }
  | _ => none

/-- The flag for telling decisions, given once. -/
def setVerbose? (o : Options) : Option Options :=
  if o.verbose then none else some { o with verbose := true }

/-- The flag for checking only, given once. -/
def setCheck? (o : Options) : Option Options :=
  if o.check then none else some { o with check := true }

end Options

/-- The name and the value of an argument that holds both. -/
def splitValue (arg : String) : String × Option String :=
  let cs := arg.toList
  match cs.dropWhile (· ≠ '=') with
  | [] => (arg, none)
  | _ :: value => (String.ofList (cs.takeWhile (· ≠ '=')), some (String.ofList value))

/-- The argument may be the value of an option before it. -/
def isValue (arg : String) : Bool :=
  arg = "-" || arg.toList.head? ≠ some '-'

/-- What an argument without a value asks for, wherever it stands. -/
inductive Flag
  /-- Decisions are to be told. -/
  | verbose
  /-- Help is to be shown. -/
  | help
  deriving DecidableEq, Repr

/-- The flags of letters; nothing matters behind the one for help. -/
def flagsOfLetters? : List Char → Option (List Flag)
  | [] => some []
  | 'h' :: _ => some [.help]
  | 'v' :: cs => (flagsOfLetters? cs).map (.verbose :: ·)
  | _ :: _ => none

/-- The flags of an argument: one by its name, or letters behind a hyphen. -/
def flags? (arg : String) : Option (List Flag) :=
  if arg = "--verbose" then some [.verbose]
  else if arg = "--help" then some [.help]
  else
    match arg.toList with
    | '-' :: c :: cs => flagsOfLetters? (c :: cs)
    | _ => none

/-- What arguments that are read one by one leave. -/
inductive Progress (α : Type)
  /-- All is read so far. -/
  | read (a : α)
  /-- Help is to be shown, whatever follows. -/
  | help

/-- The flags one after the other, each of which may be given once. -/
def Options.addFlags? (o : Options) : List Flag → Option (Progress Options)
  | [] => some (.read o)
  | .help :: _ => some .help
  | .verbose :: fs =>
    match o.setVerbose? with
    | none => none
    | some o => o.addFlags? fs

/-- The options behind a command, if they can be understood. -/
def readOptions (c : CommandName) (o : Options) : List String → Option (Progress Options)
  | [] => some (.read o)
  | arg :: args =>
    match flags? arg with
    | some fs =>
      match o.addFlags? fs with
      | some (.read o) => readOptions c o args
      | result => result
    | none =>
      if arg = "--" then if args.isEmpty then some (.read o) else none
      else if arg = "--check" && c.checks then o.setCheck?.bind (readOptions c · args)
      else
        match splitValue arg with
        | (name, some value) =>
          if name ∈ c.valued then (o.setValue? name value).bind (readOptions c · args) else none
        | (name, none) =>
          match args with
          | [] => none
          | value :: args =>
            if name ∈ c.valued && isValue value then
              (o.setValue? name value).bind (readOptions c · args)
            else none

/-- The command whose options are given, if none is missing. -/
def CommandName.finish? (c : CommandName) (o : Options) : Option Command :=
  match c with
  | nodeIds => do return .nodeIds ⟨← o.schema, ← o.out⟩ o.check o.timestamp
  | batch => do return .batch (← o.manifest) o.check
  | diagnostics => some .diagnostics

/-- What help is asked about by the names behind `help`. -/
def topicOf? : List String → Option Topic
  | [] => some .program
  | ["help"] => some .helpCommand
  | [name] => (CommandName.ofText? name).map .command
  | _ => none

/-- What the arguments ask for, with the flags that were given before them. -/
def readRequest? (o : Options) : List String → Option Request
  | [] => none
  | arg :: args =>
    match flags? arg with
    | some fs =>
      match o.addFlags? fs with
      | none => none
      | some .help => some ⟨.help .program, o.verbose⟩
      | some (.read o) => readRequest? o args
    | none =>
      if arg = "help" then (topicOf? args).map fun topic => ⟨.help topic, o.verbose⟩
      else
        match CommandName.ofText? arg with
        | none => none
        | some c =>
          match readOptions c {} args with
          | none => none
          | some .help => some ⟨.help (.command c), o.verbose⟩
          | some (.read inner) => (c.finish? inner).map (⟨·, o.verbose || inner.verbose⟩)

/-- What the command line asks for, if it can be understood. -/
def parseArgs? (args : List String) : Option Request :=
  readRequest? {} args

end NodeIdGen.Cli
