import NodeIdGen.Diagnostic.Basic

/-!
# The catalog of diagnostics

All codes in a table, in ascending order of their numbers.
-/

namespace NodeIdGen

/-- The table's line for a code. -/
def Code.row (c : Code) : String :=
  "| " ++ c.number ++ " | " ++ c.phase.name ++ " | " ++ Severity.error.name ++ " | " ++ c.message ++
    " | " ++ c.help.getD "" ++ " |\n"

/-- What stands above the table. -/
def catalogHead : String :=
  "# astgen diagnostics catalog\n\n" ++
    "This document is generated from `crates/astgen-core/src/diagnostics.rs`.\n\n" ++
    "| Code | Phase | Severity | Message | Help |\n" ++
    "| ---- | ----- | -------- | ------- | ---- |\n"

def catalog : String :=
  catalogHead ++ String.join (Code.all.map Code.row)

end NodeIdGen
