import NodeIdGen.Generate.Accessor
import NodeIdGen.Generate.Header
import NodeIdGen.Generate.Log
import NodeIdGen.Generate.Resolve

/-!
# Generating a document

A run looks at the declarations in their order and gathers the text of the document, the number of
records, the accessors and the events of its decisions. Each record with a node id gets an accessor;
the first record whose node id is ambiguous stops the run, and there is no document.
-/

namespace NodeIdGen.Generate

open NodeIdGen.Schema

/-- What a run decides about a declaration: that it is no record, or what its node id is. -/
inductive Decision
  | skipped
  | noNodeId
  | accessor (field : String)
  | ambiguous (e : Error)
  deriving DecidableEq

/-- Of variants and flag sets nothing is looked at; of a record its node id decides. -/
def decisionOf (d : Declaration) : Decision :=
  match d with
  | .variant _ | .flagSet _ => .skipped
  | .record r =>
    match nodeId? r with
    | .ok none => .noNodeId
    | .ok (some field) => .accessor field
    | .error e => .ambiguous e

def Decision.event (d : Declaration) : Decision → Event
  | skipped => .skipped d.name d.kind
  | noNodeId => .noNodeId d.name
  | accessor field => .resolved d.name field
  | ambiguous e => .ambiguous d.name e.message

/-- What a run has gathered when it comes to a declaration. -/
structure Progress where
  body : List Char := []
  records : Nat := 0
  accessors : List Accessor := []
  told : List Event := []
  deriving DecidableEq

/-- Why a run is stopped, and what it has told by then. -/
structure Stop where
  told : List Event
  error : Error
  deriving DecidableEq

/-- One declaration of a run. The decision is told whatever it is; an accessor is written behind an
empty line. -/
def Progress.step (p : Progress) (d : Declaration) : Except Stop Progress :=
  let told := p.told ++ [(decisionOf d).event d]
  match decisionOf d with
  | .skipped => .ok { p with told }
  | .noNodeId => .ok { p with records := p.records + 1, told }
  | .accessor field =>
    let a : Accessor := ⟨d.name, field⟩
    .ok ⟨p.body ++ '\n' :: a.chars, p.records + 1, p.accessors ++ [a], told⟩
  | .ambiguous e => .error ⟨told, e⟩

def progress (ds : List Declaration) : Except Stop Progress :=
  ds.foldlM Progress.step {}

/-- What a run made of the declarations. -/
structure Report where
  document : String
  declarations : Nat
  records : Nat
  accessors : List Accessor
  deriving DecidableEq, Repr

def report (ds : List Declaration) (timestamp : String) : Except Error Report := do
  let p ← (progress ds).mapError Stop.error
  return ⟨String.ofList (headerChars timestamp ++ p.body), ds.length, p.records, p.accessors⟩

def generate (ds : List Declaration) (timestamp : String) : Except Error String := do
  return (← report ds timestamp).document

/-- What a run over the declarations tells, with its counts at the end if it is not stopped. -/
def events (ds : List Declaration) : List Event :=
  match progress ds with
  | .ok p => p.told ++ [.generated ds.length p.records p.accessors.length]
  | .error s => s.told

end NodeIdGen.Generate
