import NodeIdGen.Cli.Args

/-!
# Help

How the program is called, in words: an overview, and a text for each command. What is said to
arguments that cannot be understood does not go into what is wrong with them.
-/

namespace NodeIdGen.Cli

def programHelp : List String :=
  ["Deterministic AST schema code generator.",
   "",
   "Usage: astgen [OPTIONS] <COMMAND>",
   "",
   "Commands:",
   "  node-ids     Generate `GetNodeId` impls for a schema",
   "  batch        Generate for every entry of a manifest",
   "  diagnostics  Print the diagnostics catalog as Markdown",
   "  help         Print this message or the help of the given subcommand(s)",
   "",
   "Options:",
   "  -v, --verbose  Log resolution decisions to stderr",
   "  -h, --help     Print help"]

def commandHelp : CommandName → List String
  | .nodeIds =>
    ["Generate `GetNodeId` impls for a schema",
     "",
     "Usage: astgen node-ids [OPTIONS] --schema <SCHEMA> --out <OUT>",
     "",
     "Options:",
     "      --schema <SCHEMA>        Schema file (`.json`, otherwise Rust syntax)",
     "  -v, --verbose                Log resolution decisions to stderr",
     "      --out <OUT>              Generated Rust file",
     "      --check                  If set, fail if output differs (ignoring the timestamp " ++
        "line); do not write",
     "      --timestamp <TIMESTAMP>  Timestamp written into the provenance header (default: now)",
     "  -h, --help                   Print help"]
  | .batch =>
    ["Generate for every entry of a manifest",
     "",
     "Usage: astgen batch [OPTIONS] --manifest <MANIFEST>",
     "",
     "Options:",
     "      --manifest <MANIFEST>  ",
     "  -v, --verbose              Log resolution decisions to stderr",
     "      --check                If set, fail if any output differs; do not write",
     "  -h, --help                 Print help"]
  | .diagnostics =>
    ["Print the diagnostics catalog as Markdown",
     "",
     "Usage: astgen diagnostics [OPTIONS]",
     "",
     "Options:",
     "  -v, --verbose  Log resolution decisions to stderr",
     "  -h, --help     Print help"]

def helpHelp : List String :=
  ["Print this message or the help of the given subcommand(s)",
   "",
   "Usage: astgen help [COMMAND]...",
   "",
   "Arguments:",
   "  [COMMAND]...  Print help for the subcommand(s)"]

/-- The answer to arguments that cannot be understood. -/
def refusal : List String :=
  ["error: the arguments cannot be understood",
   "",
   "Usage: astgen [OPTIONS] <COMMAND>",
   "",
   "For more information, try '--help'."]

/-- Each line with its end. -/
def endLines (lines : List String) : String :=
  "".intercalate (lines.map (· ++ "\n"))

def Topic.text (t : Topic) : String :=
  endLines <|
    match t with
    | .program => programHelp
    | .command c => commandHelp c
    | .helpCommand => helpHelp

end NodeIdGen.Cli
