import NodeIdGen.Proofs.Cli.Job

/-!
# A batch is a sequence of single runs

The second side is `singles`: the jobs one after the other, each run for itself on the tree that the
one before left, all with one time stamp. A batch does what `singles` does for the jobs up to the
first that fails; what that one does it does too, and its failure is the batch's, under its position
in the manifest.

The jobs are those that the manifest listed at the start. Nothing is assumed of the paths: an output
may be the manifest, an earlier output or the schema of a later job, and the single runs see it.
-/

namespace NodeIdGen.Cli

open NodeIdGen.Generate NodeIdGen.Schema

variable {t u v : Tree} {job : Job} {jobs done later : List Job} {check : Bool} {ts : String}
  {n : Nat} {o : Outcome} {os : List Outcome} {f : Failure}

/-! ## Single runs one after the other -/

/-- The jobs one after the other, each for itself on the tree that the one before left. -/
def singles (check : Bool) (ts : String) (jobs : List Job) : StateM Tree (List Outcome) :=
  jobs.mapM fun job => runJob Files.ofTree job check ts

@[simp] theorem singles_nil : singles check ts [] t = ([], t) := rfl

@[simp] theorem singles_cons : singles check ts (job :: jobs) t =
    ((runJob Files.ofTree job check ts t).1 ::
        (singles check ts jobs (runJob Files.ofTree job check ts t).2).1,
      (singles check ts jobs (runJob Files.ofTree job check ts t).2).2) := by
  simp only [singles, List.mapM_cons]
  rfl

theorem singles_append (h : singles check ts done t = (os, v)) :
    singles check ts (done ++ later) t =
      (os ++ (singles check ts later v).1, (singles check ts later v).2) := by
  induction done generalizing t os with
  | nil =>
      cases h
      rfl
  | cons job done ih =>
      rw [singles_cons] at h
      cases h
      rw [List.cons_append, singles_cons, ih rfl]
      rfl

/-! ## Jobs in a batch -/

theorem runJobs_failed (h : runJob Files.ofTree job check ts t = (o, u)) (hf : o.failure = some f) :
    runJobs Files.ofTree check ts n (job :: jobs) t =
      ({ o with failure := some (.job n f) }, u) := by
  rw [runJobs, bind_ofTree, h]
  dsimp only
  rw [hf]
  rfl

theorem runJobs_completed (h : runJob Files.ofTree job check ts t = (o, u))
    (hok : o.failure = none) :
    runJobs Files.ofTree check ts n (job :: jobs) t =
      (o.append (runJobs Files.ofTree check ts (n + 1) jobs u).1,
        (runJobs Files.ofTree check ts (n + 1) jobs u).2) := by
  rw [runJobs, bind_ofTree, h]
  dsimp only
  rw [hok]
  rfl

/-- What the jobs that are done printed and told, as one outcome. -/
def joined (os : List Outcome) (failure : Option Failure) : Outcome where
  output := String.join (os.map Outcome.output)
  events := os.flatMap Outcome.events
  failure := failure

theorem append_joined (o : Outcome) (os : List Outcome) (failure : Option Failure) :
    o.append (joined os failure) = joined (o :: os) failure := by
  simp [Outcome.append, joined, String.join_cons]

/-- A single run on the tree came to its end: it printed the report line of its job, for the report
of the job's own schema as the tree holds it. -/
structure Completed (ts : String) (t : Tree) (job : Job) (o : Outcome) : Prop where
  failure : o.failure = none
  reported : ∃ ds e r, load job.schema (t.read job.schema) = .ok (ds, e) ∧
    report ds ts = .ok r ∧ o.output = reportLine job.out r

/-- Single runs came to their end one after the other, each on the tree that the one before left. -/
inductive AllCompleted (check : Bool) (ts : String) : Tree → List Job → List Outcome → Prop
  | nil {t : Tree} : AllCompleted check ts t [] []
  | cons {t u : Tree} {job : Job} {jobs : List Job} {o : Outcome} {os : List Outcome}
      (run : runJob Files.ofTree job check ts t = (o, u)) (first : Completed ts t job o)
      (others : AllCompleted check ts u jobs os) : AllCompleted check ts t (job :: jobs) (o :: os)

theorem completed_of_runJob (h : runJob Files.ofTree job check ts t = (o, u))
    (hok : o.failure = none) : Completed ts t job o := by
  obtain ⟨ds, e, r, -, hload, hreport, -, hline⟩ := exists_of_runJob h hok
  exact ⟨hok, ds, e, r, hload, hreport, hline⟩

theorem AllCompleted.failure (h : AllCompleted check ts t done os) :
    ∀ o ∈ os, o.failure = none := by
  induction h with
  | nil => exact List.forall_mem_nil _
  | cons _ first _ ih => exact List.forall_mem_cons.2 ⟨first.failure, ih⟩

/-- A batch runs its jobs one after the other, up to the first that fails. By induction on the jobs,
for whatever tree and position the batch has come to. -/
theorem exists_of_runJobs (h : runJobs Files.ofTree check ts n jobs t = (o, u)) :
    ∃ done later os v, jobs = done ++ later ∧ singles check ts done t = (os, v) ∧
      AllCompleted check ts t done os ∧
      ((later = [] ∧ u = v ∧ o = joined os none) ∨
        ∃ job rest p f, later = job :: rest ∧ runJob Files.ofTree job check ts v = (p, u) ∧
          p.failure = some f ∧ o = joined (os ++ [p]) (some (.job (n + done.length) f))) := by
  induction jobs generalizing n t o with
  | nil =>
      cases h
      exact ⟨[], [], [], u, rfl, rfl, .nil, .inl ⟨rfl, rfl, rfl⟩⟩
  | cons job jobs ih =>
      rcases hp : runJob Files.ofTree job check ts t with ⟨p, w⟩
      cases hf : p.failure with
      | some f =>
          rw [runJobs_failed hp hf] at h
          cases h
          refine ⟨[], job :: jobs, [], t, rfl, rfl, .nil, .inr ⟨job, jobs, p, f, rfl, hp, hf, ?_⟩⟩
          simp [joined]
      | none =>
          rw [runJobs_completed hp hf] at h
          rcases hq : runJobs Files.ofTree check ts (n + 1) jobs w with ⟨q, w'⟩
          rw [hq] at h
          cases h
          obtain ⟨done, later, os, v, rfl, hsingles, hdone, hend⟩ := ih hq
          refine ⟨job :: done, later, p :: os, v, rfl, ?_,
            .cons hp (completed_of_runJob hp hf) hdone, ?_⟩
          · rw [singles_cons, hp, hsingles]
          · rcases hend with ⟨hlater, hv, rfl⟩ | ⟨job', rest, p', f, hlater, hp', hf', rfl⟩
            · exact .inl ⟨hlater, hv, append_joined p os none⟩
            · refine .inr ⟨job', rest, p', f, hlater, hp', hf', ?_⟩
              rw [append_joined, List.cons_append, List.length_cons, Nat.add_assoc,
                Nat.add_comm 1]

/-! ## The program -/

variable {manifest now : String} {setting : Option String} {args : List String} {verbose : Bool}
  {request : Request} {m : Manifest} {res : Result}

theorem charsOfBytes_toUTF8 (s : String) : Text.charsOfBytes s.toUTF8 = s.toList.map some := by
  rw [Text.charsOfBytes, fromUTF8?_toUTF8]

theorem loadManifest_toUTF8 {path text : String} : loadManifest path (.ok text.toUTF8) = .ok m ↔
    Manifest.parse (text.toList.map some) = .ok m ∧ isVersion manifestVersion m.version := by
  simp only [loadManifest, Except.bind_ok_iff, Except.mapError_ok_iff, Except.ok.injEq,
    exists_eq_left', charsOfBytes_toUTF8]
  constructor
  · rintro ⟨m', hparse, h⟩
    split at h
    · next hversion =>
      cases h
      exact ⟨hparse, hversion⟩
    · cases h
  · rintro ⟨hparse, hversion⟩
    exact ⟨m, hparse, if_pos hversion⟩

/-- What the program leaves of a command's outcome. -/
def Outcome.result (o : Outcome) (filter : Filter) : Result where
  status := if o.failure.isSome then 1 else 0
  output := o.output
  log := filter.lines o.events
  failure := o.failure

theorem run_ofTree (hargs : parseArgs? args = some request) :
    run Files.ofTree now setting args t =
      ((runCommand Files.ofTree request.command now t).1.result
          (logFilter setting request.verbose),
        (runCommand Files.ofTree request.command now t).2) := by
  rw [run, hargs]
  rfl

theorem status_result (filter : Filter) : (o.result filter).status = 0 ↔ o.failure = none := by
  cases h : o.failure <;> simp [Outcome.result, h]

/-- The manifest is read before any job runs. -/
theorem runBatch_ofTree (manifest : String) (check : Bool) (now : String) (t : Tree) :
    runBatch Files.ofTree manifest check now t =
      match loadManifest manifest (t.read manifest) with
      | .error f => ({ failure := some f }, t)
      | .ok m => runJobs Files.ofTree check (m.timestamp.getD now) 0 m.jobs t := by
  have hread : Files.ofTree.read manifest t = (t.read manifest, t) := rfl
  rw [runBatch, bind_ofTree, hread]
  dsimp only
  cases loadManifest manifest (t.read manifest) <;> rfl

theorem run_of_loadManifest (hargs : parseArgs? args = some ⟨.batch manifest check, verbose⟩)
    (hmanifest : loadManifest manifest (t.read manifest) = .ok m) :
    run Files.ofTree now setting args t =
      ((runJobs Files.ofTree check (m.timestamp.getD now) 0 m.jobs t).1.result
          (logFilter setting verbose),
        (runJobs Files.ofTree check (m.timestamp.getD now) 0 m.jobs t).2) := by
  rw [run_ofTree hargs]
  dsimp only [runCommand]
  rw [runBatch_ofTree, hmanifest]

/-- A batch has the effect of single runs for the jobs of its manifest, as that was at the start:
with one time stamp for all, one after the other, up to the first that fails. It prints what these
print: for each job that came to its end, the line with the report of the job's schema. Its status
is zero exactly if no job fails, and otherwise its failure is that of the job, under the job's
position. -/
theorem batch_is_singles
    (hargs : parseArgs? args = some ⟨.batch manifest check, verbose⟩)
    (hmanifest : loadManifest manifest (t.read manifest) = .ok m)
    (hrun : run Files.ofTree now setting args t = (res, u)) :
    ∃ done later os v, m.jobs = done ++ later ∧
      singles check (m.timestamp.getD now) done t = (os, v) ∧
      AllCompleted check (m.timestamp.getD now) t done os ∧
      res.output = String.join (os.map Outcome.output) ∧
      (res.status = 0 ↔ ∀ o ∈ (singles check (m.timestamp.getD now) m.jobs t).1,
        o.failure = none) ∧
      ((later = [] ∧ u = v ∧ res.failure = none ∧
          res.log = (logFilter setting verbose).lines (os.flatMap Outcome.events)) ∨
        ∃ job rest o f, later = job :: rest ∧
          runJob Files.ofTree job check (m.timestamp.getD now) v = (o, u) ∧ o.failure = some f ∧
          res.failure = some (.job done.length f) ∧
          (Failure.job done.length f).message =
            "manifest entry[" ++ toString done.length ++ "]: " ++ f.message ∧
          res.log = (logFilter setting verbose).lines ((os ++ [o]).flatMap Outcome.events)) := by
  rw [run_of_loadManifest hargs hmanifest] at hrun
  rcases hjobs : runJobs Files.ofTree check (m.timestamp.getD now) 0 m.jobs t with ⟨b, w⟩
  rw [hjobs] at hrun
  cases hrun
  obtain ⟨done, later, os, v, hsplit, hsingles, hdone, hend⟩ := exists_of_runJobs hjobs
  refine ⟨done, later, os, v, hsplit, hsingles, hdone, ?_⟩
  rcases hend with ⟨rfl, rfl, rfl⟩ | ⟨job, rest, p, f, rfl, hp, hf, rfl⟩
  · rw [List.append_nil] at hsplit
    rw [hsplit, hsingles]
    exact ⟨rfl, iff_of_true rfl hdone.failure, .inl ⟨rfl, rfl, rfl, rfl⟩⟩
  · rw [Nat.zero_add]
    refine ⟨?_, ?_, .inr ⟨job, rest, p, f, rfl, hp, hf, rfl, rfl, rfl⟩⟩
    · have hsilent : p.output = "" := (runJob_failed hp hf).2.1
      simp [Outcome.result, joined, hsilent]
    · rw [hsplit, singles_append hsingles, singles_cons, hp]
      refine iff_of_false nofun fun h => ?_
      cases hf.symm.trans (h p (by simp))

def recordSchema : String := "struct A \x7b id: u8 \x7d"

/-- What a job makes of `recordSchema`. -/
def recordReport : Report :=
  ⟨document "now" [⟨"A", "id"⟩], 1, 1, [⟨"A", "id"⟩]⟩

theorem loadText_recordSchema {path : String} (h : isDocumentPath path = false) :
    loadText path recordSchema = .ok ([.record ⟨"A", ∅, [⟨"id", ∅⟩]⟩], .sourceLoaded 1) := by
  have hsource : ofSource recordSchema = .ok [.record ⟨"A", ∅, [⟨"id", ∅⟩]⟩] :=
    Except.toOption_eq_some.1 (by decide +kernel)
  rw [loadText, h, hsource]
  rfl

def withDocument (t : Tree) (name : String) (r : Report) : Tree :=
  t.put [name] (.file r.document.toUTF8)

/-- A manifest whose first job writes to the manifest itself, which is the schema of the second. -/
def selfManifest : String :=
  "\x7b\"schema_version\": \"astgen.manifest@0.1.0\", \"timestamp\": \"now\", \"entries\": " ++
  "[\x7b\"schema\": \"s\", \"out\": \"m.json\"\x7d, " ++
  "\x7b\"schema\": \"m.json\", \"out\": \"o\"\x7d]\x7d"

/-- A tree with that manifest and the schema of its first job. -/
def selfTree : Tree :=
  ⟨[(["m.json"], .file selfManifest.toUTF8),
    (["s"], .file recordSchema.toUTF8)]⟩

/-- The tree behind the first job. -/
def selfWritten : Tree :=
  withDocument selfTree "m.json" recordReport

theorem loadManifest_selfTree : loadManifest "m.json" (selfTree.read "m.json") =
    .ok ⟨manifestVersion, some "now", [⟨"s", "m.json"⟩, ⟨"m.json", "o"⟩]⟩ :=
  loadManifest_toUTF8.2 ⟨Except.toOption_eq_some.1 (by decide +kernel), by decide +kernel⟩

theorem runJob_selfTree : ∃ o, runJob Files.ofTree ⟨"s", "m.json"⟩ false "now" selfTree =
    (o, selfWritten) ∧ o.failure = none := by
  have hload : loadText "s" recordSchema = _ := loadText_recordSchema (by decide)
  exact ⟨_, runJob_stored (r := recordReport) (load_eq_ok.2 ⟨_, asText_toUTF8 _, hload⟩) rfl rfl,
    rfl⟩

/-- A document of accessors is no document of a schema. -/
theorem load_selfWritten : ∃ f, load "m.json" (selfWritten.read "m.json") = .error f := by
  have hread : selfWritten.read "m.json" = .ok recordReport.document.toUTF8 := rfl
  rw [hread]
  exact load_refused (by decide +kernel)

/-- The second job still runs when the manifest is gone, and fails because it is no schema. -/
theorem second_job_fails_on_manifest : ∃ res u f,
    run Files.ofTree "later" none ["batch", "--manifest", "m.json"] selfTree = (res, u) ∧
      res.failure = some (.job 1 f) := by
  have hargs : parseArgs? ["batch", "--manifest", "m.json"] =
      some ⟨.batch "m.json" false, false⟩ := by
    decide +kernel
  obtain ⟨fault, hload⟩ := load_selfWritten
  obtain ⟨first, hfirst, hnone⟩ := runJob_selfTree
  have hsecond : runJob Files.ofTree ⟨"m.json", "o"⟩ false "now" selfWritten =
      ({ failure := some fault }, selfWritten) := runJob_refused hload
  rcases hrun : run Files.ofTree "later" none ["batch", "--manifest", "m.json"] selfTree
    with ⟨res, u⟩
  obtain ⟨done, later, os, v, hsplit, hsingles, hdone, -, -, hend⟩ :=
    batch_is_singles hargs loadManifest_selfTree hrun
  dsimp only [Option.getD_some] at hsplit hsingles hend
  rcases hend with ⟨rfl, -, -, -⟩ | ⟨job, rest, p, f, rfl, hp, hf, hfailure, -⟩
  · rw [List.append_nil] at hsplit
    rw [← hsplit, singles_cons, hfirst, singles_cons, hsecond] at hsingles
    cases hsingles
    cases hdone.failure ⟨"", [], some fault⟩ (by simp)
  · cases done with
    | nil =>
        cases hsplit
        cases hsingles
        cases hfirst.symm.trans hp
        cases hnone.symm.trans hf
    | cons done₀ done =>
        cases done with
        | nil => exact ⟨res, u, f, rfl, hfailure⟩
        | cons done₁ done => simp at hsplit

end NodeIdGen.Cli
