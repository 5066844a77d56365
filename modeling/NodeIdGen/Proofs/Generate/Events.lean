import NodeIdGen.Proofs.Generate.Resolve

/-!
# What the log tells of a run

The log of a run tells of each declaration what was decided about it, in the order of the
declarations and once for each. `Tells` says which event that is, by the rules for node ids and not
by the function that follows them. The first record that is ambiguous is told of by an error, which
ends the log; if there is none, the log ends with the counts of the report.

`decisions_append` is about the front part of a run, in which no record is ambiguous: each
declaration in it adds its own event, whatever stands behind. Both ends of the log follow from it.
-/

namespace NodeIdGen.Generate

open NodeIdGen.Schema

/-! ## The event of one declaration -/

/-- The event that tells what was decided about a declaration whose node id, if it is to have one,
can be told. -/
inductive Tells : Declaration → Event → Prop
  | skipped {d : Declaration} (hkind : d.kind ≠ .record) : Tells d (.skipped d.name d.kind)
  | noNodeId {r : Record} (hr : Resolves r (.ok none)) : Tells (.record r) (.noNodeId r.name)
  | resolved {r : Record} {field : String} (hr : Resolves r (.ok (some field))) :
      Tells (.record r) (.resolved r.name field)

/-- The accessor that an event tells of. -/
def Event.accessorTold? : Event → Option Accessor
  | .resolved decl field => some ⟨decl, field⟩
  | _ => none

variable {d : Declaration} {e e' : Event} {before : List Declaration}

theorem Tells.unique (h : Tells d e) (h' : Tells d e') : e = e' := by
  cases h with
  | skipped hkind =>
      cases h' with
      | skipped _ => rfl
      | noNodeId _ | resolved _ => exact absurd rfl hkind
  | noNodeId hr =>
      cases h' with
      | skipped hkind => exact absurd rfl hkind
      | noNodeId _ => rfl
      | resolved hr' => cases hr.nodeId?_eq.symm.trans hr'.nodeId?_eq
  | resolved hr =>
      cases h' with
      | skipped hkind => exact absurd rfl hkind
      | noNodeId hr' => cases hr.nodeId?_eq.symm.trans hr'.nodeId?_eq
      | resolved hr' =>
          cases hr.nodeId?_eq.symm.trans hr'.nodeId?_eq
          rfl

/-- The event of what is decided about a declaration. -/
def eventOf (d : Declaration) : Event :=
  (decisionOf d).event d

/-- The decision about a record that is not ambiguous is told, and the next declaration is looked
at. -/
theorem decisions_cons (h : ∀ r, d = .record r → ¬ IsAmbiguous r) (rest : List Declaration) :
    decisions (d :: rest) = eventOf d :: decisions rest ∧ Tells d (eventOf d) := by
  cases d with
  | variant v => exact ⟨rfl, .skipped (d := .variant v) nofun⟩
  | flagSet f => exact ⟨rfl, .skipped (d := .flagSet f) nofun⟩
  | record r =>
      have told := resolves_nodeId? r
      rw [decisions, eventOf, decisionOf]
      cases hr : nodeId? r with
      | error err => exact absurd (ambiguity?_eq_some.1 (nodeId?_eq_error.1 hr)).1 (h r rfl)
      | ok found =>
          rw [hr] at told
          cases found with
          | none => exact ⟨rfl, .noNodeId told⟩
          | some field => exact ⟨rfl, .resolved told⟩

/-- The decision about an ambiguous record is the last that is told. -/
theorem decisions_of_ambiguous {r : Record} (h : IsAmbiguous r) (rest : List Declaration) :
    decisions (.record r :: rest) =
      [.ambiguous r.name (Error.ambiguousIdentifier r.name (markedCount r)).message] := by
  have decided : decisionOf (.record r) =
      .ambiguous (.ambiguousIdentifier r.name (markedCount r)) := by
    rw [decisionOf, nodeId?_eq_error.2 (ambiguity?_eq_some.2 ⟨h, rfl⟩)]
  rw [decisions, decided]
  rfl

/-! ## The events of a list -/

theorem not_ambiguous_cons {ds : List Declaration}
    (h : ∀ q ∈ recordsOf (d :: ds), ¬ IsAmbiguous q) :
    (∀ r, d = .record r → ¬ IsAmbiguous r) ∧ ∀ q ∈ recordsOf ds, ¬ IsAmbiguous q := by
  constructor
  · rintro r rfl
    exact h r List.mem_cons_self
  · intro q hq
    refine h q ?_
    rw [← List.singleton_append, recordsOf_append]
    exact List.mem_append_right _ hq

/-- As long as no record is ambiguous, each declaration adds the event that tells of it. -/
theorem decisions_append (h : ∀ q ∈ recordsOf before, ¬ IsAmbiguous q)
    (rest : List Declaration) :
    decisions (before ++ rest) = before.map eventOf ++ decisions rest ∧
      List.Forall₂ Tells before (before.map eventOf) := by
  induction before with
  | nil => exact ⟨rfl, .nil⟩
  | cons d before ih =>
      obtain ⟨hd, hbefore⟩ := not_ambiguous_cons h
      obtain ⟨hrest, htold⟩ := ih hbefore
      obtain ⟨hfirst, htells⟩ := decisions_cons hd (before ++ rest)
      exact ⟨by rw [List.cons_append, hfirst, hrest, List.map_cons, List.cons_append],
        .cons htells htold⟩

theorem accessorTold?_eventOf (r : Record) :
    (eventOf (.record r)).accessorTold? = accessor? r := by
  rw [eventOf, decisionOf, accessor?]
  cases nodeId? r with
  | error err => rfl
  | ok found => cases found <;> rfl

theorem accessors_told (ds : List Declaration) :
    (ds.map eventOf).filterMap Event.accessorTold? = (recordsOf ds).filterMap accessor? := by
  rw [List.filterMap_map, recordsOf, List.filterMap_filterMap]
  refine List.filterMap_congr fun d _ => ?_
  cases d with
  | record r => exact accessorTold?_eventOf r
  | variant v => rfl
  | flagSet f => rfl

theorem level_of_tells (h : Tells d e) : e.level = .debug := by
  cases h <;> rfl

/-- What tells of declarations is told at the lowest level. -/
theorem level_told {ds : List Declaration} {told : List Event} (h : List.Forall₂ Tells ds told) :
    told.map Event.level = ds.map fun _ => .debug := by
  induction h with
  | nil => rfl
  | cons hd _ ih => rw [List.map_cons, List.map_cons, level_of_tells hd, ih]

/-! ## The whole log -/

theorem events_of_report_ok {ds : List Declaration} {ts : String} {made : Report}
    (h : report ds ts = .ok made) : events ds = decisions ds ++
      [.generated made.declarations made.records made.accessors.length] := by
  rw [report_eq_accessors, Except.bind_ok_iff] at h
  obtain ⟨as, has, hmade⟩ := h
  obtain rfl := Except.pure_ok_iff.1 hmade
  rw [events_eq_decisions, has]

theorem events_of_report_error {ds : List Declaration} {ts : String} {err : Error}
    (h : report ds ts = .error err) : events ds = decisions ds := by
  rw [report_eq_accessors, Except.bind_error_iff] at h
  rcases h with h | ⟨as, -, h⟩
  · rw [events_eq_decisions, h, List.append_nil]
  · exact absurd h Except.pure_not_error

/-- The log tells of each declaration once, in their order, up to the first record that is
ambiguous; that record gives the one error of the log, behind which nothing is told. If there is
none, the log ends with the counts of the report, and the accessors that it tells of are those of
the report. -/
theorem log_accounts_for_declarations (ds : List Declaration) (ts : String) :
    (∀ d e e', Tells d e → Tells d e' → e = e') ∧
    (∀ before r after, ds = before ++ .record r :: after →
      (∀ q ∈ recordsOf before, ¬ IsAmbiguous q) → IsAmbiguous r →
      ∃ told, List.Forall₂ Tells before told ∧
        report ds ts = .error (.ambiguousIdentifier r.name (markedCount r)) ∧
        events ds = told ++
          [.ambiguous r.name (Error.ambiguousIdentifier r.name (markedCount r)).message] ∧
        (events ds).map Event.level = before.map (fun _ => .debug) ++ [.error]) ∧
    ((∀ q ∈ recordsOf ds, ¬ IsAmbiguous q) →
      ∃ told made, List.Forall₂ Tells ds told ∧ report ds ts = .ok made ∧
        events ds = told ++
          [.generated made.declarations made.records made.accessors.length] ∧
        (events ds).map Event.level = ds.map (fun _ => .debug) ++ [.info] ∧
        (events ds).filterMap Event.accessorTold? = made.accessors) := by
  refine ⟨fun _ _ _ h h' => h.unique h', ?_, ?_⟩
  · rintro before r after rfl hbefore hr
    have stopped : report (before ++ .record r :: after) ts =
        .error (.ambiguousIdentifier r.name (markedCount r)) :=
      report_eq_error.2 ⟨_, r, recordsOf after, recordsOf_append before _, hbefore, hr, rfl⟩
    obtain ⟨hdecisions, htold⟩ := decisions_append hbefore (.record r :: after)
    have log := events_of_report_error stopped
    rw [hdecisions, decisions_of_ambiguous hr after] at log
    refine ⟨_, htold, stopped, log, ?_⟩
    rw [log, List.map_append, level_told htold]
    rfl
  · intro h
    have made : report ds ts = .ok (reportOf ds ts) := report_eq_ok.2 ⟨h, rfl⟩
    obtain ⟨hdecisions, htold⟩ := decisions_append h []
    rw [List.append_nil, decisions, List.append_nil] at hdecisions
    have log := events_of_report_ok made
    rw [hdecisions] at log
    refine ⟨_, _, htold, made, log, ?_, ?_⟩
    · rw [log, List.map_append, level_told htold]
      rfl
    · rw [log, List.filterMap_append, accessors_told]
      exact List.append_nil _

/-- A record with a marked field, a variant and a record without node id, behind them an ambiguous
record, and one more. -/
def mixedSchema : List Declaration :=
  [.record ⟨"A", ∅, [⟨"x", .ofList [identifierField]⟩, ⟨"id", ∅⟩]⟩, .variant ⟨"B", ∅, ["id"]⟩,
   .record ⟨"C", .ofList [noIdentifier], [⟨"id", ∅⟩]⟩,
   .record ⟨"D", ∅, [⟨"y", .ofList [identifierField]⟩, ⟨"z", .ofList [identifierField]⟩]⟩,
   .record ⟨"E", ∅, [⟨"id", ∅⟩]⟩]

/-- The first three are told of, and the fourth as the error; without it and the last, the counts
follow. -/
theorem mixedSchema_log :
    (∃ told, List.Forall₂ Tells (mixedSchema.take 3) told ∧ events mixedSchema = told ++
      [.ambiguous "D" "record D has 2 fields marked as node id (expected 0 or 1)"]) ∧
    ∃ told made, List.Forall₂ Tells (mixedSchema.take 3) told ∧
      report (mixedSchema.take 3) "now" = .ok made ∧ made.accessors = [⟨"A", "x"⟩] ∧
      events (mixedSchema.take 3) = told ++ [.generated 3 2 1] := by
  obtain ⟨-, hstopped, -⟩ := log_accounts_for_declarations mixedSchema "now"
  obtain ⟨-, -, hmade⟩ := log_accounts_for_declarations (mixedSchema.take 3) "now"
  constructor
  · obtain ⟨told, htold, -, hlog, -⟩ := hstopped (mixedSchema.take 3)
      ⟨"D", ∅, [⟨"y", .ofList [identifierField]⟩, ⟨"z", .ofList [identifierField]⟩]⟩
      [.record ⟨"E", ∅, [⟨"id", ∅⟩]⟩] rfl (by decide) (by decide)
    exact ⟨told, htold, hlog⟩
  · obtain ⟨told, made, htold, hreport, hlog, -⟩ := hmade (by decide)
    obtain rfl : made = _ := Except.ok.inj (hreport.symm.trans (by rfl))
    exact ⟨told, _, htold, hreport, by decide, hlog⟩

end NodeIdGen.Generate
