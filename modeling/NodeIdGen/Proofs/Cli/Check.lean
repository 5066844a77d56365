import NodeIdGen.Proofs.Cli.Job

/-!
# Checking an output against its schema

A run that writes leaves the document of the schema in the output, where it stays when the schema
is replaced, as long as the two are different files. A later check reads the new schema, generates
its document and compares the two without the lines of their time stamps. What is compared then
stands for the accessors, so the check tells exactly whether the accessors have changed.
-/

namespace NodeIdGen.Cli

open NodeIdGen.Generate NodeIdGen.Schema

variable {t u : Tree} {job : Job} {check : Bool} {ts : String} {ds : List Declaration} {e : Event}
  {r : Report}

/-! ## Runs of the program -/

variable {now : String} {setting : Option String} {args : List String} {stamp : Option String}
  {verbose : Bool} {res : Result}

theorem exists_of_run
    (hargs : parseArgs? args = some ⟨.nodeIds job check stamp, verbose⟩)
    (h : run Files.ofTree now setting args t = (res, u)) : ∃ o,
      runJob Files.ofTree job check (stamp.getD now) t = (o, u) ∧ res.output = o.output ∧
        (res.status = 0 ↔ o.failure = none) := by
  unfold run at h
  rw [hargs] at h
  dsimp only [runCommand] at h
  rw [bind_ofTree] at h
  generalize runJob Files.ofTree job check (stamp.getD now) t = done at h ⊢
  obtain ⟨o, u'⟩ := done
  cases h
  refine ⟨o, rfl, rfl, ?_⟩
  cases o.failure <;> simp

/-- The check is exact: behind a run that wrote the output, and after the schema was replaced by
any other that loads and generates, it succeeds exactly if both give the same accessors. The two
paths have to lead to different files once the first run has made the directories of the output. -/
theorem check_status_iff {t₀ t₁ t₂ t₃ : Tree} {schema out : String} {now₁ now₂ : String}
    {setting₁ setting₂ : Option String} {args₁ args₂ : List String} {stamp₁ stamp₂ : Option String}
    {verbose₁ verbose₂ : Bool} {res₁ res₂ : Result} {text : String}
    (hargs₁ : parseArgs? args₁ = some ⟨.nodeIds ⟨schema, out⟩ false stamp₁, verbose₁⟩)
    (hargs₂ : parseArgs? args₂ = some ⟨.nodeIds ⟨schema, out⟩ true stamp₂, verbose₂⟩)
    (hrun₁ : run Files.ofTree now₁ setting₁ args₁ t₀ = (res₁, t₁)) (hstatus₁ : res₁.status = 0)
    (hapart : t₁.place? schema ≠ t₁.place? out)
    (hreplace : t₁.write schema text.toUTF8 = .ok t₂)
    (hload : loadText schema text = .ok (ds, e)) (hreport : report ds (stamp₂.getD now₂) = .ok r)
    (hrun₂ : run Files.ofTree now₂ setting₂ args₂ t₂ = (res₂, t₃)) :
    ∃ text₁ ds₁ e₁ r₁, asText (t₀.read schema) = .ok text₁ ∧
      loadText schema text₁ = .ok (ds₁, e₁) ∧ report ds₁ (stamp₁.getD now₁) = .ok r₁ ∧
      res₁.output = reportLine out r₁ ∧
      (res₂.status = 0 ↔ r₁.accessors = r.accessors) ∧
      (res₂.status = 0 → res₂.output = reportLine out r ∧
        bodyDigest r.document = bodyDigest r₁.document ∧
        ∃ current, asText (t₃.read out) = .ok current ∧
          bodyDigest current = bodyDigest r.document) := by
  obtain ⟨o₁, hjob₁, houtput₁, hiff₁⟩ := exists_of_run hargs₁ hrun₁
  obtain ⟨ds₁, e₁, r₁, event₁, hload₁, hreport₁, hstore₁, hline₁⟩ :=
    exists_of_runJob hjob₁ (hiff₁.1 hstatus₁)
  obtain ⟨text₁, htext₁, hload₁⟩ := load_eq_ok.1 hload₁
  obtain ⟨t', -, hwritten⟩ := exists_write_of_writeOutput hstore₁
  -- the output holds the first document also when the schema is replaced
  have hcurrent : asText (t₂.read out) = .ok r₁.document := by
    rw [Tree.read_of_write_of_ne hreplace hapart (Tree.read_of_write hwritten), asText_toUTF8]
  have htext : asText (t₂.read schema) = .ok text := by
    rw [Tree.read_of_write hreplace, asText_toUTF8]
  obtain ⟨o₂, hjob₂, houtput₂, hiff₂⟩ := exists_of_run hargs₂ hrun₂
  obtain ⟨rfl, hagree, hline₂⟩ := runJob_check hjob₂ htext hload hreport
  have hsame : body? r₁.document = body? r.document ↔ r₁.accessors = r.accessors := by
    rw [document_of_report hreport₁, document_of_report hreport]
    exact body?_document_eq_iff
      (oneLine_of_loaded (loaded_of_loadText hload₁) (accessors_of_report hreport₁))
      (oneLine_of_loaded (loaded_of_loadText hload) (accessors_of_report hreport))
  have hcheck : res₂.status = 0 ↔ body? r₁.document = body? r.document := by
    rw [hiff₂, hagree, hcurrent]
    simp
  refine ⟨text₁, ds₁, e₁, r₁, htext₁, hload₁, hreport₁, houtput₁.trans hline₁,
    hcheck.trans hsame, fun hstatus₂ => ?_⟩
  have haccessors := hsame.1 (hcheck.1 hstatus₂)
  have hdigest : bodyDigest r.document = bodyDigest r₁.document := by
    unfold bodyDigest
    rw [document_of_report hreport₁, document_of_report hreport, body?_document, body?_document,
      haccessors]
    rfl
  exact ⟨houtput₂.trans (hline₂ (hiff₂.1 hstatus₂)), hdigest, r₁.document, hcurrent, hdigest.symm⟩

def firstSchema : String := "struct A \x7b id: u8 \x7d"

/-- The first schema with a further field in front, which changes no accessor. -/
def secondSchema : String := "struct A \x7b n: u8, id: u8 \x7d"

def oneSchema : Tree :=
  ⟨[(["s"], .file firstSchema.toUTF8)]⟩

/-- The tree with the output beside the schema. -/
def oneOutput : Tree :=
  oneSchema.put ["o"] (.file (document "now" [⟨"A", "id"⟩]).toUTF8)

theorem loadText_firstSchema : loadText "s" firstSchema =
    .ok ([.record ⟨"A", ∅, [⟨"id", ∅⟩]⟩], .sourceLoaded 1) :=
  Except.toOption_eq_some.1 (by decide +kernel)

theorem run_oneSchema :
    run Files.ofTree "now" none ["node-ids", "--schema", "s", "--out", "o"] oneSchema =
      (⟨0, reportLine "o" ⟨document "now" [⟨"A", "id"⟩], 1, 1, [⟨"A", "id"⟩]⟩, [], none⟩,
        oneOutput) := by
  have hargs : parseArgs? ["node-ids", "--schema", "s", "--out", "o"] =
      some ⟨.nodeIds ⟨"s", "o"⟩ false none, false⟩ := by decide +kernel
  have hload : load "s" (oneSchema.read "s") =
      .ok ([.record ⟨"A", ∅, [⟨"id", ∅⟩]⟩], .sourceLoaded 1) :=
    load_eq_ok.2 ⟨firstSchema, asText_toUTF8 _, loadText_firstSchema⟩
  unfold run
  rw [hargs]
  dsimp only [runCommand]
  rw [bind_ofTree, runJob_ofTree, hload]
  rfl

theorem check_status_of_further_field : ∃ t₁ t₂ t₃ res₁ res₂,
    run Files.ofTree "now" none ["node-ids", "--schema", "s", "--out", "o"] oneSchema =
      (res₁, t₁) ∧
    t₁.write "s" secondSchema.toUTF8 = .ok t₂ ∧
    run Files.ofTree "later" none ["node-ids", "--schema", "s", "--out", "o", "--check"] t₂ =
      (res₂, t₃) ∧ res₂.status = 0 := by
  have hargs₁ : parseArgs? ["node-ids", "--schema", "s", "--out", "o"] =
      some ⟨.nodeIds ⟨"s", "o"⟩ false none, false⟩ := by decide +kernel
  have hargs₂ : parseArgs? ["node-ids", "--schema", "s", "--out", "o", "--check"] =
      some ⟨.nodeIds ⟨"s", "o"⟩ true none, false⟩ := by decide +kernel
  have hapart : oneOutput.place? "s" ≠ oneOutput.place? "o" :=
    show some ["s"] ≠ some ["o"] by decide
  have hreplace : oneOutput.write "s" secondSchema.toUTF8 =
      .ok (oneOutput.put ["s"] (.file secondSchema.toUTF8)) := rfl
  have hload : loadText "s" secondSchema =
      .ok ([.record ⟨"A", ∅, [⟨"n", ∅⟩, ⟨"id", ∅⟩]⟩], .sourceLoaded 1) :=
    Except.toOption_eq_some.1 (by decide +kernel)
  rcases hrun₂ : run Files.ofTree "later" none
      ["node-ids", "--schema", "s", "--out", "o", "--check"]
      (oneOutput.put ["s"] (.file secondSchema.toUTF8)) with ⟨res₂, t₃⟩
  refine ⟨oneOutput, _, t₃, _, res₂, run_oneSchema, hreplace, hrun₂, ?_⟩
  obtain ⟨text₁, ds₁, e₁, r₁, htext₁, hload₁, hreport₁, -, hiff, -⟩ :=
    check_status_iff hargs₁ hargs₂ run_oneSchema rfl hapart hreplace hload rfl hrun₂
  obtain rfl : firstSchema = text₁ := Except.ok.inj ((asText_toUTF8 _).symm.trans htext₁)
  cases loadText_firstSchema.symm.trans hload₁
  have hsame : (.ok r₁.accessors : Except Error (List Accessor)) = .ok [⟨"A", "id"⟩] :=
    (accessors_of_report hreport₁).symm
  exact hiff.2 (Except.ok.inj hsame)

end NodeIdGen.Cli
