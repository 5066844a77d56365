import NodeIdGen.Generate.Report
import NodeIdGen.Proofs.Except

/-!
# What a run gathers

A run has one loop for all that it gathers. Here each part stands for itself, as a function of the
declarations: the accessors, unless a record is ambiguous; the text that they make; the number of
records; the events of the decisions. `gathered_cons` is about one turn of the loop, and
`foldlM_step` about all of them: they add just these parts to what was gathered before. So a report
and a log can be taken for what the parts make (`report_eq_accessors`, `events_eq_decisions`).
-/

namespace NodeIdGen.Generate

open NodeIdGen.Schema

/-! ## The parts -/

/-- The accessors of the declarations, unless a record's node id is ambiguous. -/
def accessors : List Declaration → Except Error (List Accessor)
  | [] => .ok []
  | d :: ds =>
    match decisionOf d with
    | .skipped | .noNodeId => accessors ds
    | .accessor field => do
      let rest ← accessors ds
      return ⟨d.name, field⟩ :: rest
    | .ambiguous e => .error e

/-- The events of the decisions, up to the first ambiguous one. -/
def decisions : List Declaration → List Event
  | [] => []
  | d :: ds =>
    (decisionOf d).event d ::
      match decisionOf d with
      | .ambiguous _ => []
      | _ => decisions ds

def isRecord (d : Declaration) : Bool :=
  d.kind = .record

/-- The text of a document behind its header: each accessor behind an empty line. -/
def bodyOf (as : List Accessor) : List Char :=
  as.flatMap fun a => '\n' :: a.chars

/-- The document with the time stamp and the accessors; `report_eq_accessors` says that it is the one
that a run reports. -/
def document (timestamp : String) (as : List Accessor) : String :=
  String.ofList (headerChars timestamp ++ bodyOf as)

/-! ## The loop -/

variable {d : Declaration}

/-- What is gathered when declarations are taken behind those that were. -/
def gathered (p : Progress) (ds : List Declaration) : Except Stop Progress :=
  match accessors ds with
  | .ok as => .ok
      ⟨p.body ++ bodyOf as, p.records + (ds.filter isRecord).length, p.accessors ++ as,
        p.told ++ decisions ds⟩
  | .error e => .error ⟨p.told ++ decisions ds, e⟩

theorem isRecord_iff : isRecord d = true ↔ decisionOf d ≠ .skipped := by
  cases d with
  | variant v => exact iff_of_false nofun fun h => h rfl
  | flagSet f => exact iff_of_false nofun fun h => h rfl
  | record r =>
      refine iff_of_true rfl ?_
      rw [decisionOf]
      split <;> nofun

/-- What one declaration adds. -/
theorem gathered_cons (p : Progress) (d : Declaration) (ds : List Declaration) :
    gathered p (d :: ds) = p.step d >>= fun q => gathered q ds := by
  have counted := isRecord_iff (d := d)
  rw [gathered, accessors, decisions, Progress.step]
  cases hd : decisionOf d with
  | skipped =>
      have uncounted : isRecord d = false := by simpa [hd] using counted
      simp [gathered, uncounted, bind, Except.bind]
  | noNodeId =>
      have counted : isRecord d = true := by simpa [hd] using counted
      simp [gathered, counted, bind, Except.bind, Nat.add_assoc, Nat.add_comm 1]
  | accessor field =>
      have counted : isRecord d = true := by simpa [hd] using counted
      cases has : accessors ds <;>
        simp [gathered, counted, has, bodyOf, bind, Except.bind, pure, Except.pure, Nat.add_assoc,
          Nat.add_comm 1]
  | ambiguous e => rfl

/-- The loop adds each part to what it has gathered. -/
theorem foldlM_step (ds : List Declaration) (p : Progress) :
    ds.foldlM Progress.step p = gathered p ds := by
  induction ds generalizing p with
  | nil => simp [gathered, accessors, decisions, bodyOf, pure, Except.pure]
  | cons d ds ih =>
      rw [List.foldlM_cons, gathered_cons]
      simp only [ih]

theorem report_eq_accessors (ds : List Declaration) (ts : String) : report ds ts = do
    let as ← accessors ds
    return ⟨document ts as, ds.length, (ds.filter isRecord).length, as⟩ := by
  rw [report, progress, foldlM_step, gathered]
  cases accessors ds with
  | ok as => simp [Except.mapError, document, bind, Except.bind]
  | error e => rfl

/-- The log is the decisions, with the counts behind them unless the run is stopped. -/
theorem events_eq_decisions (ds : List Declaration) : events ds = decisions ds ++
    match accessors ds with
    | .ok as => [.generated ds.length (ds.filter isRecord).length as.length]
    | .error _ => [] := by
  rw [events, progress, foldlM_step, gathered]
  cases accessors ds <;> simp

end NodeIdGen.Generate
