import NodeIdGen.Proofs.Cli.Batch

/-!
# What checks and failures leave alone

A check writes nothing, whatever it finds. A run that is to write does so last of all, behind every
step that can fail but the writing itself, and a file that cannot be written is not touched. So a
run that fails has at most made the directories of its output, and a batch that fails at some job
leaves the files that the jobs before it left.
-/

namespace NodeIdGen.Cli

open NodeIdGen.Generate

variable {t u v : Tree} {job : Job} {jobs done : List Job} {check : Bool} {ts : String} {n : Nat}
  {o : Outcome} {os : List Outcome} {manifest now : String} {setting : Option String}
  {args : List String} {verbose : Bool} {m : Manifest} {res : Result} {f : Failure}

/-! ## Checks -/

theorem checkOutput_tree (out document : String) (t : Tree) :
    (checkOutput Files.ofTree out document t).2 = t := by
  rw [checkOutput_ofTree]

theorem runJob_checked (h : runJob Files.ofTree job true ts t = (o, u)) : u = t := by
  rcases runJob_cases h with ⟨-, -, -, -, hu⟩ | ⟨ds, e, r, -, -, hstored⟩
  · exact hu
  · have hkept := checkOutput_tree job.out r.document t
    rcases hstored with ⟨f, hstored, -⟩ | ⟨event, hstored, -⟩
    · exact (congrArg Prod.snd hstored).symm.trans hkept
    · exact (congrArg Prod.snd hstored).symm.trans hkept

/-- One job after the other, a batch that checks stays on the tree it started on. -/
theorem runJobs_checked (n : Nat) (jobs : List Job) :
    (runJobs Files.ofTree true ts n jobs t).2 = t := by
  induction jobs generalizing n with
  | nil => rfl
  | cons job jobs ih =>
      rcases h : runJob Files.ofTree job true ts t with ⟨o, u⟩
      obtain rfl := runJob_checked h
      cases hf : o.failure with
      | some f => rw [runJobs_failed h hf]
      | none => rw [runJobs_completed h hf, ih]

theorem runBatch_checked (manifest now : String) (t : Tree) :
    (runBatch Files.ofTree manifest true now t).2 = t := by
  rw [runBatch_ofTree]
  cases loadManifest manifest (t.read manifest) with
  | error f => rfl
  | ok m => exact runJobs_checked 0 m.jobs

/-- The command is to check only. -/
def Command.IsCheck : Command → Prop
  | nodeIds _ check _ => check = true
  | batch _ check => check = true
  | _ => False

theorem runCommand_checked {c : Command} (h : c.IsCheck) (now : String) (t : Tree) :
    (runCommand Files.ofTree c now t).2 = t := by
  cases c with
  | nodeIds job check stamp =>
      obtain rfl : check = true := h
      exact runJob_checked rfl
  | batch manifest check =>
      obtain rfl : check = true := h
      exact runBatch_checked manifest now t
  | diagnostics => exact h.elim
  | help topic => exact h.elim

/-! ## Failures -/

/-- A batch that fails at a job leaves the files that the jobs before it leave. -/
theorem sameFiles_of_runJobs (h : runJobs Files.ofTree check ts 0 jobs t = (o, u))
    (hf : o.failure = some (.job n f)) :
    n < jobs.length ∧ (singles check ts (jobs.take n) t).2.SameFiles u := by
  obtain ⟨done, later, os, v, rfl, hsingles, hdone, hend⟩ := exists_of_runJobs h
  rcases hend with ⟨-, -, rfl⟩ | ⟨job, rest, p, f', rfl, hp, hpf, rfl⟩
  · cases hf
  · obtain ⟨rfl, -⟩ : done.length = n ∧ f' = f := by
      simpa [joined] using hf
    refine ⟨by simp, ?_⟩
    rw [List.take_left, hsingles]
    exact (runJob_failed hp hpf).1.files

/-- Checks and failures leave files alone: a check leaves the whole tree as it is; a run that fails
leaves every file as it is, prints nothing, and makes no directory either if the schema is to blame;
a batch that fails at a job leaves the files that the jobs before it leave. -/
theorem checks_and_failures_keep_files (t : Tree) :
    (∀ now setting args request, parseArgs? args = some request → request.command.IsCheck →
      (run Files.ofTree now setting args t).2 = t) ∧
    (∀ job ts o u f, runJob Files.ofTree job false ts t = (o, u) → o.failure = some f →
      t.SameFiles u ∧ o.output = "" ∧ (f.OfSchema → u = t)) ∧
    (∀ now setting args verbose manifest check m res u n f,
      parseArgs? args = some ⟨.batch manifest check, verbose⟩ →
      loadManifest manifest (t.read manifest) = .ok m →
      run Files.ofTree now setting args t = (res, u) → res.failure = some (.job n f) →
      n < m.jobs.length ∧
        (singles check (m.timestamp.getD now) (m.jobs.take n) t).2.SameFiles u) := by
  refine ⟨?_, ?_, ?_⟩
  · intro now setting args request hargs hcheck
    rw [run_ofTree hargs]
    exact runCommand_checked hcheck now t
  · intro job ts o u f h hf
    obtain ⟨hgrows, hsilent, hkept⟩ := runJob_failed h hf
    exact ⟨hgrows.files, hsilent, fun hschema => hkept (.inl hschema)⟩
  · intro now setting args verbose manifest check m res u n f hargs hmanifest hrun hfailure
    rw [run_of_loadManifest hargs hmanifest] at hrun
    cases hrun
    exact sameFiles_of_runJobs rfl hfailure

/-- A check of the manifest that is written over, a single run for its second job on what the first
has left, and the batch itself. -/
theorem files_kept_behind_first_job :
    (run Files.ofTree "later" none ["batch", "--manifest", "m.json", "--check"] selfTree).2 =
        selfTree ∧
      (runJob Files.ofTree ⟨"m.json", "d/o"⟩ false "now" selfWritten).2 = selfWritten ∧
      ∃ res u f,
        run Files.ofTree "later" none ["batch", "--manifest", "m.json"] selfTree = (res, u) ∧
        res.failure = some (.job 1 f) ∧
        (singles false "now" [⟨"s", "m.json"⟩] selfTree).2.SameFiles u := by
  have hcheckArgs : parseArgs? ["batch", "--manifest", "m.json", "--check"] =
      some ⟨.batch "m.json" true, false⟩ := by
    decide +kernel
  have hargs : parseArgs? ["batch", "--manifest", "m.json"] =
      some ⟨.batch "m.json" false, false⟩ := by
    decide +kernel
  obtain ⟨m, hmanifest, hstamp, hjobs⟩ : ∃ m,
      loadManifest "m.json" (selfTree.read "m.json") = .ok m ∧ m.timestamp = some "now" ∧
        m.jobs = [⟨"s", "m.json"⟩, ⟨"m.json", "o"⟩] :=
    ⟨_, loadManifest_selfTree, rfl, rfl⟩
  obtain ⟨f, hload⟩ := load_selfWritten
  obtain ⟨first, hfirst, hnone⟩ := runJob_selfTree
  have hrefused (out : String) : runJob Files.ofTree ⟨"m.json", out⟩ false "now" selfWritten =
      ({ failure := some f }, selfWritten) := runJob_refused hload
  refine ⟨?_, ?_, ?_⟩
  · exact (checks_and_failures_keep_files selfTree).1 _ _ _ _ hcheckArgs rfl
  · obtain ⟨-, -, hkept⟩ :=
      (checks_and_failures_keep_files selfWritten).2.1 _ _ _ _ f (hrefused "d/o") rfl
    rw [hrefused, hkept (ofSchema_of_load hload)]
  · rcases hrun : run Files.ofTree "later" none ["batch", "--manifest", "m.json"] selfTree
      with ⟨res, u⟩
    have hfailure : res.failure = some (.job 1 f) := by
      rw [run_of_loadManifest hargs hmanifest, hstamp, hjobs, Option.getD_some,
        runJobs_completed hfirst hnone, runJobs_failed (hrefused "o") rfl] at hrun
      cases hrun
      rfl
    obtain ⟨-, hkept⟩ := (checks_and_failures_keep_files selfTree).2.2 _ _ _ _ _ _ m _ _ _ _ hargs
      hmanifest hrun hfailure
    rw [hstamp, hjobs, Option.getD_some, List.take_succ_cons, List.take_zero] at hkept
    exact ⟨res, u, f, rfl, hfailure, hkept⟩

end NodeIdGen.Cli
