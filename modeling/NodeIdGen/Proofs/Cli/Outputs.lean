import Mathlib.Data.List.Nodup
import NodeIdGen.Proofs.Cli.Untouched

/-!
# What a batch leaves in its outputs

A batch that comes to its end has written the document of every job, one after the other. What is
lost is only what is written over: at the end an output holds the document of the last job that
writes to the file, whichever paths lead there.
-/

namespace NodeIdGen.Cli

open NodeIdGen.Generate NodeIdGen.Schema

/-! ## Runs that write -/

/-- A run of the job on `t` comes to its end with the report `r`, and leaves `u`. -/
structure Writes (ts : String) (t : Tree) (job : Job) (r : Report) (u : Tree) : Prop where
  schema : ∃ ds e, load job.schema (t.read job.schema) = .ok (ds, e) ∧ report ds ts = .ok r
  output : ∃ t' : Tree, t.Grows t' ∧ t'.write job.out r.document.toUTF8 = .ok u

/-- Runs of the jobs one after the other, all of which come to their end. -/
inductive WritesAll (ts : String) : Tree → List (Job × Report) → Tree → Prop
  | nil {t : Tree} : WritesAll ts t [] t
  | cons {t u v : Tree} {job : Job} {r : Report} {rest : List (Job × Report)}
      (first : Writes ts t job r u) (others : WritesAll ts u rest v) :
      WritesAll ts t ((job, r) :: rest) v

variable {t u v : Tree} {job : Job} {jobs : List Job} {ts : String} {r last : Report} {o : Outcome}
  {os : List Outcome} {done : List (Job × Report)} {p q : Job × Report} {c : ByteArray}
  {path : String} {place : Option Location}

theorem exists_writes (h : runJob Files.ofTree job false ts t = (o, u)) (hok : o.failure = none) :
    ∃ r, Writes ts t job r u ∧ o.output = reportLine job.out r := by
  obtain ⟨ds, e, r, event, hload, hreport, hstored, hline⟩ := exists_of_runJob h hok
  exact ⟨r, ⟨⟨ds, e, hload, hreport⟩, exists_write_of_writeOutput hstored⟩, hline⟩

theorem exists_writesAll (h : singles false ts jobs t = (os, v))
    (hok : ∀ o ∈ os, o.failure = none) :
    ∃ done, done.map Prod.fst = jobs ∧
      os.map Outcome.output = done.map (fun p => reportLine p.1.out p.2) ∧
      WritesAll ts t done v := by
  induction jobs generalizing t os with
  | nil =>
      cases h
      exact ⟨[], rfl, rfl, .nil⟩
  | cons job jobs ih =>
      rcases hrun : runJob Files.ofTree job false ts t with ⟨o, u⟩
      rcases hothers : singles false ts jobs u with ⟨os', w⟩
      rw [singles_cons, hrun, hothers] at h
      cases h
      rw [List.forall_mem_cons] at hok
      obtain ⟨r, hwrites, hline⟩ := exists_writes hrun hok.1
      obtain ⟨done, rfl, hlines, hall⟩ := ih hothers hok.2
      refine ⟨(job, r) :: done, rfl, ?_, .cons hwrites hall⟩
      rw [List.map_cons, List.map_cons, hline, hlines]

theorem Writes.keeps (h : Writes ts t job r u) : t.Keeps u := by
  obtain ⟨t', hgrows, hwrite⟩ := h.output
  exact hgrows.keeps.trans (Tree.keeps_of_write hwrite)

theorem Writes.read_out (h : Writes ts t job r u) : u.read job.out = .ok r.document.toUTF8 := by
  obtain ⟨t', -, hwrite⟩ := h.output
  exact Tree.read_of_write hwrite

/-- What is read through a path that leads to no output is read as before. -/
theorem Writes.read (h : Writes ts t job r u) (hkeeps : u.Keeps v) (hr : t.read path = .ok c)
    (hne : v.place? job.out ≠ v.place? path) : u.read path = .ok c := by
  obtain ⟨t', hgrows, hwrite⟩ := h.output
  have hkeeps' := (Tree.keeps_of_write hwrite).trans hkeeps
  have hr' := hgrows.read hr
  obtain ⟨l, hl⟩ := Tree.place?_of_write hwrite
  obtain ⟨k, hk, -⟩ := Tree.place?_of_read hr'
  refine Tree.read_of_write_of_ne hwrite ?_ hr'
  rwa [hl, hk, ← hkeeps'.place? hl, ← hkeeps'.place? hk]

namespace WritesAll

theorem keeps (h : WritesAll ts t done v) : t.Keeps v := by
  induction h with
  | nil => exact fun _ hl => hl
  | cons first _ ih => exact first.keeps.trans ih

theorem read (h : WritesAll ts t done v) (hr : t.read path = .ok c)
    (hne : ∀ p ∈ done, v.place? p.1.out ≠ v.place? path) : v.read path = .ok c := by
  induction h with
  | nil => exact hr
  | cons first others ih =>
      rw [List.forall_mem_cons] at hne
      exact ih (first.read others.keeps hr hne.1) hne.2

end WritesAll

/-! ## The last job that writes to a file -/

/-- The report of the last job whose output leads to the place. -/
def lastAt? (t : Tree) (place : Option Location) (done : List (Job × Report)) : Option Report :=
  (done.reverse.find? fun p => t.place? p.1.out = place).map Prod.snd

theorem lastAt?_cons : lastAt? t place (p :: done) =
    (lastAt? t place done).or (if t.place? p.1.out = place then some p.2 else none) := by
  simp only [lastAt?, List.reverse_cons, List.find?_append, Option.map_or]
  congr 1
  by_cases h : t.place? p.1.out = place <;> simp [h]

theorem lastAt?_eq_none : lastAt? t place done = none ↔ ∀ p ∈ done, t.place? p.1.out ≠ place := by
  simp [lastAt?]

theorem exists_of_lastAt? (h : lastAt? t place done = some last) :
    ∃ p ∈ done, t.place? p.1.out = place ∧ p.2 = last := by
  obtain ⟨p, hp, hlast⟩ := Option.map_eq_some_iff.1 h
  refine ⟨p, List.mem_reverse.1 (List.mem_of_find?_eq_some hp), ?_, hlast⟩
  simpa using List.find?_some hp

/-- At the end an output holds the document of the last job that writes to its file. By induction
on the runs: what the first job wrote is still there at the end unless a later job writes to the
file, and then it is that job's document which the path of the first leads to. -/
theorem WritesAll.read_out (h : WritesAll ts t done v) : ∀ p ∈ done, ∃ last,
    lastAt? v (v.place? p.1.out) done = some last ∧
      v.read p.1.out = .ok last.document.toUTF8 := by
  induction h with
  | nil => exact List.forall_mem_nil _
  | @cons t u v job r rest first others ih =>
      refine List.forall_mem_cons.2 ⟨?_, fun p hp => ?_⟩
      · rw [lastAt?_cons, if_pos rfl]
        cases hlast : lastAt? v (v.place? job.out) rest with
        | none => exact ⟨r, rfl, others.read first.read_out (lastAt?_eq_none.1 hlast)⟩
        | some last =>
            obtain ⟨q, hq, hplace, -⟩ := exists_of_lastAt? hlast
            obtain ⟨last', hlast', hread⟩ := ih q hq
            rw [hplace, hlast] at hlast'
            cases hlast'
            exact ⟨last, rfl, others.keeps.read_of_place? first.read_out hread hplace⟩
      · obtain ⟨last, hlast, hread⟩ := ih p hp
        exact ⟨last, by rw [lastAt?_cons, hlast, Option.some_or], hread⟩

/-- The two jobs' outputs lead to one file. -/
def SharesOutput (t : Tree) (p q : Job × Report) : Prop :=
  t.place? p.1.out = t.place? q.1.out

/-- The schema of a job, as it stands on the tree, gives the accessors that the document in the
job's output was made for. -/
def UpToDate (t : Tree) (done : List (Job × Report)) (p : Job × Report) : Prop :=
  ∃ ds e last, load p.1.schema (t.read p.1.schema) = .ok (ds, e) ∧
    lastAt? t (t.place? p.1.out) done = some last ∧ accessors ds = .ok last.accessors

/-! ## Checking what was written -/

theorem exists_report {ds : List Declaration} {as : List Accessor} (ts : String)
    (h : accessors ds = .ok as) : ∃ r, report ds ts = .ok r ∧ r.accessors = as := by
  refine ⟨⟨document ts as, ds.length, (ds.filter isRecord).length, as⟩, ?_, rfl⟩
  rw [report_eq_accessors, h]
  rfl

/-- A check of a document succeeds exactly if the schema loads and gives the accessors that the
document was made for. -/
theorem runJob_checked_ok {ds' : List Declaration} {ts' : String} (hlast : report ds' ts = .ok last)
    (hds' : Loaded ds') (hout : t.read job.out = .ok last.document.toUTF8) :
    (runJob Files.ofTree job true ts' t).1.failure = none ↔
      ∃ ds e, load job.schema (t.read job.schema) = .ok (ds, e) ∧
        accessors ds = .ok last.accessors := by
  have hcurrent : asText (t.read job.out) = .ok last.document := by rw [hout, asText_toUTF8]
  rcases hrun : runJob Files.ofTree job true ts' t with ⟨o, u⟩
  have agree : ∀ {ds e r}, load job.schema (t.read job.schema) = .ok (ds, e) →
      report ds ts' = .ok r → (o.failure = none ↔ last.accessors = r.accessors) := by
    intro ds e r hload hr
    obtain ⟨text, htext, hload⟩ := load_eq_ok.1 hload
    have hsame : body? last.document = body? r.document ↔ last.accessors = r.accessors := by
      rw [document_of_report hlast, document_of_report hr]
      exact body?_document_eq_iff (oneLine_of_loaded hds' (accessors_of_report hlast))
        (oneLine_of_loaded (loaded_of_loadText hload) (accessors_of_report hr))
    rw [(runJob_check hrun htext hload hr).2.1, hcurrent, ← hsame]
    simp
  constructor
  · intro hok
    obtain ⟨ds, e, r, -, hload, hr, -, -⟩ := exists_of_runJob hrun hok
    exact ⟨ds, e, hload, (agree hload hr).1 hok ▸ accessors_of_report hr⟩
  · rintro ⟨ds, e, hload, haccessors⟩
    obtain ⟨r, hr, hsame⟩ := exists_report ts' haccessors
    exact (agree hload hr).2 hsame.symm

theorem runJobs_checked_ok (n : Nat) (jobs : List Job) :
    (runJobs Files.ofTree true ts n jobs t).1.failure = none ↔
      ∀ job ∈ jobs, (runJob Files.ofTree job true ts t).1.failure = none := by
  induction jobs generalizing n with
  | nil => exact iff_of_true rfl (List.forall_mem_nil _)
  | cons job jobs ih =>
      rcases h : runJob Files.ofTree job true ts t with ⟨o, u⟩
      obtain rfl := runJob_checked h
      rw [List.forall_mem_cons, h]
      cases hf : o.failure with
      | some f =>
          rw [runJobs_failed h hf]
          exact iff_of_false nofun fun hok => nomatch hok.1
      | none =>
          rw [runJobs_completed h hf, ← ih (n + 1)]
          exact (and_iff_right rfl).symm

theorem read_of_load {path : String} {content : Except FileFault ByteArray} {ds : List Declaration}
    {e : Event} (h : load path content = .ok (ds, e)) : ∃ c, content = .ok c := by
  cases content with
  | error f => cases h
  | ok c => exact ⟨c, rfl⟩

namespace WritesAll

theorem loaded (h : WritesAll ts t done v) : ∀ p ∈ done, ∃ ds, Loaded ds ∧
    report ds ts = .ok p.2 := by
  induction h with
  | nil => exact List.forall_mem_nil _
  | cons first _ ih =>
      refine List.forall_mem_cons.2 ⟨?_, ih⟩
      obtain ⟨ds, e, hload, hreport⟩ := first.schema
      obtain ⟨text, -, hload⟩ := load_eq_ok.1 hload
      exact ⟨ds, loaded_of_loadText hload, hreport⟩

/-- The schemas that no job writes to, once it or an earlier one has read them, load as before. -/
theorem schemas (h : WritesAll ts t done v)
    (hne : ∀ earlier job later, done.map Prod.fst = earlier ++ job :: later →
      ∀ j ∈ job :: later, v.place? j.out ≠ v.place? job.schema) :
    ∀ p ∈ done, ∃ ds e, load p.1.schema (v.read p.1.schema) = .ok (ds, e) ∧
      report ds ts = .ok p.2 := by
  induction h with
  | nil => exact List.forall_mem_nil _
  | @cons t u v job r rest first others ih =>
      refine List.forall_mem_cons.2 ⟨?_, ih fun earlier j later hsplit => ?_⟩
      · obtain ⟨ds, e, hload, hreport⟩ := first.schema
        obtain ⟨c, hc⟩ := read_of_load hload
        have hkept : v.read job.schema = .ok c := by
          refine (WritesAll.cons first others).read hc fun p hp => ?_
          exact hne [] job _ rfl p.1 (List.mem_map_of_mem hp)
        exact ⟨ds, e, by rw [hkept, ← hc, hload], hreport⟩
      · exact hne (job :: earlier) j later (congrArg (job :: ·) hsplit)

/-- A check of what was written succeeds exactly if every output is up to date. -/
theorem check_iff (h : WritesAll ts t done v) (n : Nat) (ts' : String) :
    (runJobs Files.ofTree true ts' n (done.map Prod.fst) v).1.failure = none ↔
      ∀ p ∈ done, UpToDate v done p := by
  rw [runJobs_checked_ok, List.forall_mem_map]
  refine forall₂_congr fun p hp => ?_
  obtain ⟨last, hlast, hread⟩ := h.read_out p hp
  obtain ⟨q, hq, -, rfl⟩ := exists_of_lastAt? hlast
  obtain ⟨ds', hds', hreport⟩ := h.loaded q hq
  rw [runJob_checked_ok hreport hds' hread, UpToDate]
  simp only [hlast, Option.some.injEq, exists_and_left, exists_eq_left']

end WritesAll

/-! ## The program -/

variable {manifest now : String} {setting : Option String} {args : List String} {verbose : Bool}
  {res : Result} {check : Bool} {m : Manifest}

theorem exists_of_loadManifest {path : String} {content : Except FileFault ByteArray}
    (h : loadManifest path content = .ok m) : ∃ c, content = .ok c := by
  cases content with
  | error f => cases h
  | ok c => exact ⟨c, rfl⟩

/-- No document is a manifest: it starts with a comment. -/
theorem loadManifest_document_ne (path stamp : String) (as : List Accessor) (m : Manifest) :
    loadManifest path (.ok (document stamp as).toUTF8) ≠ .ok m := by
  intro h
  have hparse := (loadManifest_toUTF8.1 h).1
  rw [document, String.toList_ofList] at hparse
  cases hparse

/-- The manifest is left as it was exactly if no job writes to it; otherwise it is no manifest any
more. -/
theorem WritesAll.loadManifest_iff (h : WritesAll ts t done v)
    (hm : loadManifest manifest (t.read manifest) = .ok m) {m' : Manifest} :
    loadManifest manifest (v.read manifest) = .ok m' ↔
      (∀ p ∈ done, v.place? p.1.out ≠ v.place? manifest) ∧ m' = m := by
  obtain ⟨c, hc⟩ := exists_of_loadManifest hm
  by_cases hapart : ∀ p ∈ done, v.place? p.1.out ≠ v.place? manifest
  · rw [h.read hc hapart, ← hc, hm, Except.ok.injEq, eq_comm]
    exact (and_iff_right hapart).symm
  · refine iff_of_false ?_ fun h => hapart h.1
    push Not at hapart
    obtain ⟨p, hp, hplace⟩ := hapart
    obtain ⟨last, hlast, hread⟩ := h.read_out p hp
    obtain ⟨q, hq, -, rfl⟩ := exists_of_lastAt? hlast
    obtain ⟨ds, -, hreport⟩ := h.loaded q hq
    rw [h.keeps.read_of_place? hc hread hplace, document_of_report hreport]
    exact loadManifest_document_ne manifest ts _ m'

theorem batch_status_iff (hargs : parseArgs? args = some ⟨.batch manifest check, verbose⟩)
    (hrun : run Files.ofTree now setting args t = (res, u)) :
    res.status = 0 ↔ ∃ m, loadManifest manifest (t.read manifest) = .ok m ∧
      (runJobs Files.ofTree check (m.timestamp.getD now) 0 m.jobs t).1.failure = none := by
  rw [run_ofTree hargs] at hrun
  cases hrun
  rw [status_result]
  dsimp only [runCommand]
  rw [runBatch_ofTree]
  cases loadManifest manifest (t.read manifest) with
  | error f => simp
  | ok m => simp

theorem exists_of_batch (hargs : parseArgs? args = some ⟨.batch manifest false, verbose⟩)
    (hrun : run Files.ofTree now setting args t = (res, u)) (hstatus : res.status = 0) :
    ∃ m done, loadManifest manifest (t.read manifest) = .ok m ∧ done.map Prod.fst = m.jobs ∧
      WritesAll (m.timestamp.getD now) t done u ∧
      res.output = String.join (done.map fun p => reportLine p.1.out p.2) := by
  obtain ⟨m, hmanifest, hok⟩ := (batch_status_iff hargs hrun).1 hstatus
  rw [run_of_loadManifest hargs hmanifest] at hrun
  rcases hjobs : runJobs Files.ofTree false (m.timestamp.getD now) 0 m.jobs t with ⟨o, w⟩
  rw [hjobs] at hok hrun
  cases hrun
  obtain ⟨jobs, later, os, v, hsplit, hsingles, hcompleted, hend⟩ := exists_of_runJobs hjobs
  rcases hend with ⟨rfl, rfl, rfl⟩ | ⟨job, rest, p, f, -, -, -, rfl⟩
  · obtain ⟨done, hdone, hlines, hall⟩ :=
      exists_writesAll hsingles hcompleted.failure
    refine ⟨m, done, hmanifest, ?_, hall, ?_⟩
    · rw [hsplit, List.append_nil, hdone]
    · rw [← hlines]
      rfl
  · cases hok

theorem bodyDigest_eq_of_accessors {ds ds' : List Declaration} {ts' : String} {r' : Report}
    (hr : report ds ts = .ok r) (hr' : report ds' ts' = .ok r') (h : r.accessors = r'.accessors) :
    bodyDigest r.document = bodyDigest r'.document := by
  rw [document_of_report hr, document_of_report hr', h, bodyDigest, bodyDigest, body?_document,
    body?_document]
  rfl

/-- After a batch that comes to its end, an output holds the document of the last job that writes to
its file; so it has the digest of that job's report line, which is the digest of the job's own line
as long as the jobs that write to the file have the same accessors. A check of the same manifest
succeeds exactly if no job has written to the manifest and all outputs are up to date with the
schemas as the batch left them; so it does if no job has written to the manifest or to a schema that
it or an earlier job has read, and the jobs that write to one file have the same accessors. -/
theorem successful_batch_outputs
    (hargs : parseArgs? args = some ⟨.batch manifest false, verbose⟩)
    (hrun : run Files.ofTree now setting args t = (res, u)) (hstatus : res.status = 0) :
    ∃ m done, loadManifest manifest (t.read manifest) = .ok m ∧ done.map Prod.fst = m.jobs ∧
      WritesAll (m.timestamp.getD now) t done u ∧
      res.output = String.join (done.map fun p => reportLine p.1.out p.2) ∧
      (∀ p ∈ done, ∃ last, lastAt? u (u.place? p.1.out) done = some last ∧
        asText (u.read p.1.out) = .ok last.document ∧
        ((∀ q ∈ done, SharesOutput u p q → p.2.accessors = q.2.accessors) →
          bodyDigest last.document = bodyDigest p.2.document)) ∧
      ∀ now' setting' args' verbose' res' u',
        parseArgs? args' = some ⟨.batch manifest true, verbose'⟩ →
        run Files.ofTree now' setting' args' u = (res', u') →
        (res'.status = 0 ↔ (∀ p ∈ done, u.place? p.1.out ≠ u.place? manifest) ∧
          ∀ p ∈ done, UpToDate u done p) ∧
        ((∀ p ∈ done, u.place? p.1.out ≠ u.place? manifest) →
          (∀ earlier job later, m.jobs = earlier ++ job :: later →
            ∀ j ∈ job :: later, u.place? j.out ≠ u.place? job.schema) →
          (∀ p ∈ done, ∀ q ∈ done, SharesOutput u p q → p.2.accessors = q.2.accessors) →
          res'.status = 0) := by
  obtain ⟨m, done, hmanifest, hjobs, hall, houtput⟩ := exists_of_batch hargs hrun hstatus
  refine ⟨m, done, hmanifest, hjobs, hall, houtput, fun p hp => ?_, ?_⟩
  · obtain ⟨last, hlast, hread⟩ := hall.read_out p hp
    refine ⟨last, hlast, by rw [hread, asText_toUTF8], fun hsame => ?_⟩
    obtain ⟨q, hq, hplace, rfl⟩ := exists_of_lastAt? hlast
    obtain ⟨ds, -, hreport⟩ := hall.loaded p hp
    obtain ⟨ds', -, hreport'⟩ := hall.loaded q hq
    exact bodyDigest_eq_of_accessors hreport' hreport (hsame q hq hplace.symm).symm
  · intro now' setting' args' verbose' res' u' hargs' hrun'
    have hcheck : res'.status = 0 ↔ (∀ p ∈ done, u.place? p.1.out ≠ u.place? manifest) ∧
        ∀ p ∈ done, UpToDate u done p := by
      rw [batch_status_iff hargs' hrun']
      simp only [hall.loadManifest_iff hmanifest, and_assoc, exists_and_left, exists_eq_left]
      rw [← hjobs, hall.check_iff]
    refine ⟨hcheck, fun hapart hschemas hsame => hcheck.2 ⟨hapart, fun p hp => ?_⟩⟩
    rw [← hjobs] at hschemas
    obtain ⟨ds, e, hload, hreport⟩ := hall.schemas hschemas p hp
    obtain ⟨last, hlast, -⟩ := hall.read_out p hp
    obtain ⟨q, hq, hplace, rfl⟩ := exists_of_lastAt? hlast
    exact ⟨ds, e, q.2, hload, hlast, hsame p hp q hq hplace.symm ▸ accessors_of_report hreport⟩

/-- A manifest of two jobs, the first of which writes to `o`. -/
def twoJobs (out : String) : Manifest :=
  ⟨manifestVersion, some "now", [⟨"a", "o"⟩, ⟨"b", out⟩]⟩

def twoJobsText (out : String) : String :=
  "\x7b\"schema_version\":\"astgen.manifest@0.1.0\",\"timestamp\":\"now\",\"entries\":[" ++
  "\x7b\"schema\":\"a\",\"out\":\"o\"\x7d,\x7b\"schema\":\"b\",\"out\":\"" ++ out ++
  "\"\x7d]\x7d"

/-- A tree with the manifest and the schemas of its jobs: a record and a variant. -/
def twoJobsTree (out : String) : Tree :=
  ⟨[(["m"], .file (twoJobsText out).toUTF8),
    (["a"], .file recordSchema.toUTF8),
    (["b"], .file "enum B \x7b C \x7d".toUTF8)]⟩

/-- The report of the second job, which has none. -/
def variantReport : Report :=
  ⟨document "now" [], 1, 0, []⟩

theorem loadText_variant : loadText "b" "enum B \x7b C \x7d" =
    .ok ([.variant ⟨"B", ∅, ["C"]⟩], .sourceLoaded 1) :=
  Except.toOption_eq_some.1 (by decide +kernel)

/-- Both jobs come to their end, wherever the second writes to. -/
theorem run_twoJobs {out : String} {event : Event} {u : Tree}
    (hmanifest : loadManifest "m" (.ok (twoJobsText out).toUTF8) = .ok (twoJobs out))
    (hstored : store ⟨"b", out⟩ false variantReport.document
      (withDocument (twoJobsTree out) "o" recordReport) = (.ok event, u)) :
    ∃ res, run Files.ofTree "later" none ["batch", "--manifest", "m"] (twoJobsTree out) =
        (res, u) ∧ res.status = 0 ∧
      res.output = reportLine "o" recordReport ++ reportLine out variantReport := by
  have hargs : parseArgs? ["batch", "--manifest", "m"] = some ⟨.batch "m" false, false⟩ := by
    decide +kernel
  have hmanifest : loadManifest "m" ((twoJobsTree out).read "m") = .ok (twoJobs out) := hmanifest
  have hfirst : runJob Files.ofTree ⟨"a", "o"⟩ false "now" (twoJobsTree out) =
      (_, withDocument (twoJobsTree out) "o" recordReport) :=
    runJob_stored (r := recordReport)
      (load_eq_ok.2 ⟨_, asText_toUTF8 _, loadText_recordSchema (by decide)⟩) rfl rfl
  have hread : (withDocument (twoJobsTree out) "o" recordReport).read "b" =
      .ok "enum B \x7b C \x7d".toUTF8 := rfl
  have hsecond : runJob Files.ofTree ⟨"b", out⟩ false "now"
      (withDocument (twoJobsTree out) "o" recordReport) = (_, u) :=
    runJob_stored (r := variantReport)
      (load_eq_ok.2 ⟨_, hread ▸ asText_toUTF8 _, loadText_variant⟩) rfl hstored
  rcases hrun : run Files.ofTree "later" none ["batch", "--manifest", "m"] (twoJobsTree out)
    with ⟨res, u'⟩
  rw [run_of_loadManifest hargs hmanifest] at hrun
  dsimp only [twoJobs, Option.getD_some] at hrun
  rw [runJobs_completed hfirst rfl, runJobs_completed hsecond rfl] at hrun
  cases hrun
  refine ⟨_, rfl, rfl, ?_⟩
  show reportLine "o" _ ++ (reportLine out _ ++ "") = _
  rw [String.append_empty]

/-- If both jobs write to `o`, the accessor of the first is gone, and a check fails. -/
theorem first_output_lost : ∃ res u,
    run Files.ofTree "later" none ["batch", "--manifest", "m"] (twoJobsTree "o") = (res, u) ∧
      res.status = 0 ∧
      res.output = reportLine "o" recordReport ++ reportLine "o" variantReport ∧
      asText (u.read "o") = .ok variantReport.document ∧
      bodyDigest variantReport.document ≠ bodyDigest recordReport.document ∧
      (run Files.ofTree "later" none ["batch", "--manifest", "m", "--check"] u).1.status ≠ 0 := by
  have hargs : parseArgs? ["batch", "--manifest", "m", "--check"] =
      some ⟨.batch "m" true, false⟩ := by
    decide +kernel
  have hmanifest : loadManifest "m" (.ok (twoJobsText "o").toUTF8) = .ok (twoJobs "o") :=
    loadManifest_toUTF8.2 ⟨Except.toOption_eq_some.1 (by decide +kernel), by decide +kernel⟩
  have hstored : store ⟨"b", "o"⟩ false variantReport.document
      (withDocument (twoJobsTree "o") "o" recordReport) =
        (_, withDocument (twoJobsTree "o") "o" variantReport) := rfl
  obtain ⟨res, hrun, hstatus, houtput⟩ := run_twoJobs hmanifest hstored
  generalize hu : withDocument (twoJobsTree "o") "o" variantReport = u at hrun
  have hm : u.read "m" = .ok (twoJobsText "o").toUTF8 := by
    rw [← hu]
    rfl
  have ha : u.read "a" = .ok recordSchema.toUTF8 := by
    rw [← hu]
    rfl
  have ho : u.read "o" = .ok variantReport.document.toUTF8 := by
    rw [← hu]
    rfl
  refine ⟨res, u, hrun, hstatus, houtput, by rw [ho, asText_toUTF8], by decide +kernel, ?_⟩
  rcases hcheck : run Files.ofTree "later" none ["batch", "--manifest", "m", "--check"] u
    with ⟨res', u'⟩
  intro hstatus'
  obtain ⟨m, hmanifest', hok⟩ := (batch_status_iff hargs hcheck).1 hstatus'
  rw [hm, hmanifest] at hmanifest'
  cases hmanifest'
  have hvariant : report [.variant ⟨"B", ∅, ["C"]⟩] "now" = .ok variantReport := rfl
  obtain ⟨ds, e, hload, haccessors⟩ :=
    (runJob_checked_ok hvariant (loaded_of_loadText loadText_variant) ho).1
      ((runJobs_checked_ok 0 _).1 hok ⟨"a", "o"⟩ (List.mem_cons_self ..))
  have hload' : load "a" (u.read "a") = _ :=
    load_eq_ok.2 ⟨_, ha ▸ asText_toUTF8 _, loadText_recordSchema (by decide)⟩
  cases hload'.symm.trans hload
  cases haccessors

/-- If the second job writes to another file, a check succeeds. -/
theorem apart_outputs_kept : ∃ res u,
    run Files.ofTree "later" none ["batch", "--manifest", "m"] (twoJobsTree "p") = (res, u) ∧
      res.status = 0 ∧
      (run Files.ofTree "later" none ["batch", "--manifest", "m", "--check"] u).1.status = 0 := by
  have hargs : parseArgs? ["batch", "--manifest", "m"] = some ⟨.batch "m" false, false⟩ := by
    decide +kernel
  have hargs' : parseArgs? ["batch", "--manifest", "m", "--check"] =
      some ⟨.batch "m" true, false⟩ := by
    decide +kernel
  have hmanifest : loadManifest "m" (.ok (twoJobsText "p").toUTF8) = .ok (twoJobs "p") :=
    loadManifest_toUTF8.2 ⟨Except.toOption_eq_some.1 (by decide +kernel), by decide +kernel⟩
  have hstored : store ⟨"b", "p"⟩ false variantReport.document
      (withDocument (twoJobsTree "p") "o" recordReport) = (_,
        withDocument (withDocument (twoJobsTree "p") "o" recordReport) "p" variantReport) := rfl
  obtain ⟨res, hrun, hstatus, -⟩ := run_twoJobs hmanifest hstored
  generalize hu : withDocument (withDocument (twoJobsTree "p") "o" recordReport) "p"
    variantReport = u at hrun
  have hmanifest_apart : ∀ job ∈ (twoJobs "p").jobs, u.place? job.out ≠ u.place? "m" := by
    rw [← hu]
    decide +kernel
  have hschemas_apart : ∀ job ∈ (twoJobs "p").jobs, ∀ j ∈ (twoJobs "p").jobs,
      u.place? j.out ≠ u.place? job.schema := by
    rw [← hu]
    decide +kernel
  have houtputs_apart : ∀ j ∈ (twoJobs "p").jobs, ∀ k ∈ (twoJobs "p").jobs,
      u.place? j.out = u.place? k.out → j = k := by
    rw [← hu]
    decide +kernel
  obtain ⟨m, done, hm, hdone, -, -, -, hcheck⟩ := successful_batch_outputs hargs hrun hstatus
  obtain rfl := Except.ok.inj (hm.symm.trans hmanifest)
  rcases hrun' : run Files.ofTree "later" none ["batch", "--manifest", "m", "--check"] u
    with ⟨res', u'⟩
  refine ⟨res, u, hrun, hstatus, ?_⟩
  rw [hrun']
  refine (hcheck _ _ _ _ _ _ hargs' hrun').2 ?_ ?_ ?_
  · rwa [← hdone, List.forall_mem_map] at hmanifest_apart
  · intro earlier job later hsplit j hj
    rw [hsplit] at hschemas_apart
    exact hschemas_apart job (by simp) j (List.mem_append_right _ hj)
  · intro p hp q hq hshares
    have hnodup : (done.map Prod.fst).Nodup := by
      rw [hdone]
      decide
    rw [← hdone] at houtputs_apart
    have hsame := houtputs_apart p.1 (List.mem_map_of_mem hp) q.1 (List.mem_map_of_mem hq) hshares
    rw [List.inj_on_of_nodup_map hnodup hp hq hsame]

end NodeIdGen.Cli
