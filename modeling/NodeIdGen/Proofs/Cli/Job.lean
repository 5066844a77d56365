import NodeIdGen.Cli.Run
import NodeIdGen.Proofs.Cli.Directories
import NodeIdGen.Proofs.Generate.Accessors

/-!
# A single run

A job reads its schema, makes a document of it, and compares the document with its output or writes
it there. `runJob_cases` takes a run apart: it ends before it looks at the output, and then the tree
is as it was, or the rest is what becomes of the document. A check leaves the tree as it is; a run
that writes makes at most directories, unless it comes to its end.
-/

namespace NodeIdGen.Cli

open NodeIdGen.Generate NodeIdGen.Schema

variable {t u : Tree} {job : Job} {check : Bool} {ts : String} {ds : List Declaration} {e : Event}
  {r : Report} {o : Outcome} {f : Failure} {res : Except Failure Event}

/-- The failure arises before the output is looked at: the schema cannot be read, loaded or made
into a document. -/
def Failure.OfSchema : Failure → Prop
  | readSchema _ _ | loadSchema _ _ | generate _ _ => True
  | _ => False

/-! ## Loading -/

theorem fromUTF8?_toUTF8 (s : String) : String.fromUTF8? s.toUTF8 = some s :=
  dif_pos s.isValidUTF8

theorem asText_toUTF8 (s : String) : asText (.ok s.toUTF8) = .ok s := by
  simp only [asText, Except.bind, fromUTF8?_toUTF8]

theorem load_eq_ok {path : String} {content : Except FileFault ByteArray} :
    load path content = .ok (ds, e) ↔
      ∃ text, asText content = .ok text ∧ loadText path text = .ok (ds, e) := by
  rw [load]
  cases asText content with
  | error f => simp
  | ok text => simp

theorem load_refused {path text : String} (h : (loadText path text).toOption = none) :
    ∃ f, load path (.ok text.toUTF8) = .error f := by
  cases hload : load path (.ok text.toUTF8) with
  | error f => exact ⟨f, rfl⟩
  | ok loaded =>
      obtain ⟨text', htext, hloaded⟩ := load_eq_ok.1 hload
      obtain rfl : text = text' := Except.ok.inj ((asText_toUTF8 text).symm.trans htext)
      rw [hloaded] at h
      cases h

theorem loaded_of_loadText {path text : String} (h : loadText path text = .ok (ds, e)) :
    Loaded ds := by
  rw [loadText] at h
  split at h
  · simp only [Except.bind_ok_iff, Except.pure_ok_iff] at h
    obtain ⟨_, hds, he⟩ := h
    cases he
    exact .ofDocument text hds
  · simp only [Except.bind_ok_iff, Except.pure_ok_iff] at h
    obtain ⟨_, hds, he⟩ := h
    cases he
    exact .ofSource text hds

theorem ofSchema_of_load {path : String} {content : Except FileFault ByteArray}
    (h : load path content = .error f) : f.OfSchema := by
  rw [load] at h
  cases htext : asText content with
  | error fault =>
      rw [htext] at h
      cases h
      trivial
  | ok text =>
      rw [htext] at h
      cases hload : loadText path text with
      | error defect =>
          simp only [hload, Except.mapError] at h
          cases h
          trivial
      | ok loaded =>
          simp only [hload, Except.mapError] at h
          cases h

/-! ## The output -/

theorem checkOutput_ofTree (out document : String) :
    checkOutput Files.ofTree out document t = (match asText (t.read out) with
      | .error f => .error (.readOutput out f)
      | .ok current =>
        if body? current = body? document then .ok (.upToDate out)
        else .error (.outputDiffers out), t) := by
  have h : checkOutput Files.ofTree out document t = (match asText (t.read out) with
      | .error f => (pure (.error (.readOutput out f)) : StateM Tree (Except Failure Event))
      | .ok current =>
        if body? current = body? document then pure (.ok (.upToDate out))
        else pure (.error (.outputDiffers out))) t := rfl
  rw [h]
  cases asText (t.read out) with
  | error f => rfl
  | ok current =>
      dsimp only
      split <;> rfl

theorem bind_ofTree {α β : Type} (x : StateM Tree α) (f : α → StateM Tree β) :
    (x >>= f) t = f (x t).1 (x t).2 := rfl

theorem write_ofTree (path : String) (content : ByteArray) :
    Files.ofTree.write path content t =
      (match t.write path content with
        | .ok u => (.ok (), u)
        | .error f => (.error f, t)) := rfl

theorem not_ofSchema_of_makeParent {out : String}
    (h : makeParent Files.ofTree out t = (.error f, u)) : ¬ f.OfSchema := by
  rw [makeParent] at h
  cases hparent : parent? out with
  | none =>
      rw [hparent] at h
      cases h
  | some parent =>
      rw [hparent] at h
      dsimp only at h
      rw [bind_ofTree] at h
      generalize createDirectories Files.ofTree parent t = made at h
      obtain ⟨fault | _, t'⟩ := made
      · cases h
        exact id
      · cases h

/-- Writing a document makes directories, and then the file may be written. -/
theorem writeOutput_cases {out document : String}
    (h : writeOutput Files.ofTree out document t = (res, u)) :
    (∃ f, res = .error f ∧ ¬ f.OfSchema ∧ t.Grows u) ∨
      ∃ t' event, res = .ok event ∧ t.Grows t' ∧ t'.write out document.toUTF8 = .ok u := by
  have hgrows := OnlyGrows.makeParent out t
  rw [writeOutput, bind_ofTree] at h
  cases hmade : makeParent Files.ofTree out t with
  | mk made t' =>
    rw [hmade] at h hgrows
    cases made with
    | error f =>
        cases h
        exact .inl ⟨f, rfl, not_ofSchema_of_makeParent hmade, hgrows⟩
    | ok _ =>
        dsimp only at h
        rw [bind_ofTree, write_ofTree] at h
        cases hwrite : t'.write out document.toUTF8 with
        | error fault =>
            rw [hwrite] at h
            cases h
            exact .inl ⟨_, rfl, id, hgrows⟩
        | ok u' =>
            rw [hwrite] at h
            cases h
            exact .inr ⟨t', _, rfl, hgrows, hwrite⟩

theorem exists_write_of_writeOutput {out document : String} {event : Event}
    (h : writeOutput Files.ofTree out document t = (.ok event, u)) :
    ∃ t' : Tree, t.Grows t' ∧ t'.write out document.toUTF8 = .ok u := by
  rcases writeOutput_cases h with ⟨f, hf, -⟩ | ⟨t', _, -, hgrows, hwrite⟩
  · cases hf
  · exact ⟨t', hgrows, hwrite⟩

/-! ## The whole run -/

theorem bind_outcome (x : StateM Tree (Except Failure Event)) (failed : Failure → Outcome)
    (done : Event → Outcome) :
    (x >>= fun
      | .error f => pure (failed f)
      | .ok event => pure (done event)) t =
      (match (x t).1 with
        | .error f => failed f
        | .ok event => done event, (x t).2) := by
  rw [bind_ofTree]
  generalize x t = s
  obtain ⟨f | event, u⟩ := s <;> rfl

/-- What a job does with its document. -/
def store (job : Job) (check : Bool) (document : String) : StateM Tree (Except Failure Event) :=
  if check then checkOutput Files.ofTree job.out document
  else writeOutput Files.ofTree job.out document

/-- The schema is read before the tree changes. -/
theorem runJob_ofTree (job : Job) (check : Bool) (ts : String) (t : Tree) :
    runJob Files.ofTree job check ts t =
      match load job.schema (t.read job.schema) with
      | .error f => ({ failure := some f }, t)
      | .ok (ds, loaded) =>
        match report ds ts with
        | .error e =>
          ({ events := loaded :: Generate.events ds
             failure := some (.generate job.schema e.diagnostic) }, t)
        | .ok r =>
          (match (store job check r.document t).1 with
            | .error f => { events := loaded :: Generate.events ds, failure := some f }
            | .ok event =>
              { output := reportLine job.out r
                events := loaded :: Generate.events ds ++ [event] },
            (store job check r.document t).2) := by
  rw [runJob, bind_ofTree]
  have hread : Files.ofTree.read job.schema t = (t.read job.schema, t) := rfl
  rw [hread]
  dsimp only
  generalize load job.schema (t.read job.schema) = loaded
  cases loaded with
  | error f => rfl
  | ok l =>
      dsimp only
      generalize report l.1 ts = generated
      cases generated with
      | error e => rfl
      | ok r =>
          cases check <;> exact bind_outcome _ _ _

theorem runJob_refused (h : load job.schema (t.read job.schema) = .error f) :
    runJob Files.ofTree job check ts t = ({ failure := some f }, t) := by
  rw [runJob_ofTree, h]

theorem runJob_stored {event : Event} (hload : load job.schema (t.read job.schema) = .ok (ds, e))
    (hreport : report ds ts = .ok r) (hstored : store job check r.document t = (.ok event, u)) :
    runJob Files.ofTree job check ts t =
      (⟨reportLine job.out r, e :: Generate.events ds ++ [event], none⟩, u) := by
  rw [runJob_ofTree, hload]
  dsimp only
  rw [hreport]
  dsimp only
  rw [hstored]

/-- A run that fails to store its document has at most made directories, and none if it only
checks. -/
theorem store_failed {document : String} (h : store job check document t = (.error f, u)) :
    ¬ f.OfSchema ∧ t.Grows u ∧ (check = true → u = t) := by
  cases check with
  | true =>
      rw [store, if_pos rfl, checkOutput_ofTree] at h
      split at h
      · cases h
        exact ⟨id, .refl t, fun _ => rfl⟩
      · split at h
        · cases h
        · cases h
          exact ⟨id, .refl t, fun _ => rfl⟩
  | false =>
      rcases writeOutput_cases h with ⟨f', hf, hschema, hgrows⟩ | ⟨_, _, hres, -⟩
      · cases hf
        exact ⟨hschema, hgrows, nofun⟩
      · cases hres

/-- A run ends before it looks at the output, and then leaves the tree as it is, or in what becomes
of its document. Only a run that comes to its end prints a line. -/
theorem runJob_cases (h : runJob Files.ofTree job check ts t = (o, u)) :
    (∃ f, o.failure = some f ∧ f.OfSchema ∧ o.output = "" ∧ u = t) ∨
    ∃ ds e r, load job.schema (t.read job.schema) = .ok (ds, e) ∧ report ds ts = .ok r ∧
      ((∃ f, store job check r.document t = (.error f, u) ∧ o.failure = some f ∧ o.output = "") ∨
        ∃ event, store job check r.document t = (.ok event, u) ∧ o.failure = none ∧
          o.output = reportLine job.out r) := by
  rw [runJob_ofTree] at h
  cases hload : load job.schema (t.read job.schema) with
  | error f =>
      rw [hload] at h
      cases h
      exact .inl ⟨f, rfl, ofSchema_of_load hload, rfl, rfl⟩
  | ok loaded =>
      obtain ⟨ds, e⟩ := loaded
      rw [hload] at h
      dsimp only at h
      cases hreport : report ds ts with
      | error err =>
          rw [hreport] at h
          cases h
          exact .inl ⟨_, rfl, trivial, rfl, rfl⟩
      | ok r =>
          rw [hreport] at h
          dsimp only at h
          refine .inr ⟨ds, e, r, rfl, hreport, ?_⟩
          generalize store job check r.document t = stored at h
          obtain ⟨f | event, u'⟩ := stored
          · cases h
            exact .inl ⟨f, rfl, rfl, rfl⟩
          · cases h
            exact .inr ⟨event, rfl, rfl, rfl⟩

theorem exists_of_runJob (h : runJob Files.ofTree job check ts t = (o, u))
    (hok : o.failure = none) : ∃ ds e r event,
      load job.schema (t.read job.schema) = .ok (ds, e) ∧ report ds ts = .ok r ∧
      store job check r.document t = (.ok event, u) ∧
      o.output = reportLine job.out r := by
  rcases runJob_cases h with ⟨f, hf, -⟩ | ⟨ds, e, r, hload, hreport, hstored⟩
  · cases hok.symm.trans hf
  · rcases hstored with ⟨f, -, hf, -⟩ | ⟨event, hstored, -, hline⟩
    · cases hok.symm.trans hf
    · exact ⟨ds, e, r, event, hload, hreport, hstored, hline⟩

/-- A job that fails prints nothing and has at most made directories; it has not done so much if the
schema is to blame or if it only checks. -/
theorem runJob_failed (h : runJob Files.ofTree job check ts t = (o, u)) (hf : o.failure = some f) :
    t.Grows u ∧ o.output = "" ∧ (f.OfSchema ∨ check = true → u = t) := by
  rcases runJob_cases h with ⟨f', hf', -, hline, rfl⟩ | ⟨ds, e, r, -, -, hstored⟩
  · exact ⟨.refl u, hline, fun _ => rfl⟩
  · rcases hstored with ⟨f', hstored, hf', hline⟩ | ⟨event, -, hnone, -⟩
    · cases hf.symm.trans hf'
      obtain ⟨hschema, hgrows, hcheck⟩ := store_failed hstored
      exact ⟨hgrows, hline, fun h => h.elim (fun h => absurd h hschema) hcheck⟩
    · cases hf.symm.trans hnone

/-- A check of a schema that loads changes nothing, and succeeds exactly if the output agrees with
the document, the lines of their time stamps apart. -/
theorem runJob_check {o : Outcome} (h : runJob Files.ofTree job true ts t = (o, u)) {text : String}
    (htext : asText (t.read job.schema) = .ok text)
    (hload : loadText job.schema text = .ok (ds, e)) (hreport : report ds ts = .ok r) :
    u = t ∧
      (o.failure = none ↔ ∃ current, asText (t.read job.out) = .ok current ∧
        body? current = body? r.document) ∧
      (o.failure = none → o.output = reportLine job.out r) := by
  have hl : load job.schema (t.read job.schema) = .ok (ds, e) := load_eq_ok.2 ⟨text, htext, hload⟩
  have hstore : store job true r.document t =
      checkOutput Files.ofTree job.out r.document t := rfl
  rw [runJob_ofTree, hl] at h
  dsimp only at h
  rw [hreport] at h
  dsimp only at h
  rw [hstore, checkOutput_ofTree] at h
  cases hout : asText (t.read job.out) with
  | error f =>
      rw [hout] at h
      cases h
      simp
  | ok current =>
      rw [hout] at h
      dsimp only at h
      by_cases hbody : body? current = body? r.document
      · rw [if_pos hbody] at h
        cases h
        simp [hbody]
      · rw [if_neg hbody] at h
        cases h
        simp [hbody]

end NodeIdGen.Cli
