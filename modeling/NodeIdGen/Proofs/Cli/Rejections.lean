import NodeIdGen.Proofs.Cli.Batch
import NodeIdGen.Proofs.Schema.DocumentLanguage
import NodeIdGen.Proofs.Schema.Markers

/-!
# A rejection names what is wrong

Four codes of diagnostics are about one declaration each: a name that is declared again, a marker
with arguments, a name that cannot be written out, and an ambiguous node id. `Exhibits` says of a
schema, in either language, that it has a declaration with such a defect, and which diagnostic tells
of it. Where a run fails with one of these codes, its diagnostic is one that the schema exhibits.

What is looked at is the schema as it is given: the items of a source, before they are declarations,
and the declarations of a document, before they are checked. None of the four messages has a place
in a text, so that they are printed as they are here.
-/

namespace NodeIdGen.Cli

open NodeIdGen.Generate NodeIdGen.Schema NodeIdGen.Syntax

/-! ## Schemas as they are given -/

/-- A schema as it is given: the text of a source or of a document. -/
inductive Input
  | source (text : String)
  | document (text : String)

namespace Input

/-- The text in a schema file, which is that of a document if the path says so. -/
def ofFile (path text : String) : Input :=
  if isDocumentPath path then .document text else .source text

def declarations : Input → Except Defect (List Declaration)
  | source text => ofSource text
  | document text => ofDocument text

/-- A run from the schema to the report. -/
def report (i : Input) (ts : String) : Except Error Report := do
  let ds ← i.declarations.mapError fun defect => .schema defect.diagnostic
  Generate.report ds ts

end Input

/-- The names that an item declares, in their order. -/
def declaredNames : Item → List String
  | .struct d => [d.name]
  | .enum d => [d.name]
  | .invocation path content =>
    if path.lastName? = some "bitflags" then
      match parseFlags content with
      | .ok entries => entries.map FlagDecl.name
      | .error _ => []
    else []
  | _ => []

/-- The names that a schema declares, in their order. -/
inductive Input.Declares : Input → List String → Prop
  | source {text : String} {items : List Item} (hparse : parseFile text = .ok items) :
      (source text).Declares (items.flatMap declaredNames)
  | document {text : String} {doc : Document} (hparse : Document.parse text = .ok doc) :
      (document text).Declares (doc.decls.map Declaration.name)

/-- A schema has a structure or a record of this wiring. -/
inductive Input.HasWiring : Input → Wiring → Prop
  | source {text : String} {items : List Item} {d : StructDecl}
      (hparse : parseFile text = .ok items) (hd : .struct d ∈ items) :
      (source text).HasWiring (.ofStruct d)
  | document {text : String} {doc : Document} {r : Record}
      (hparse : Document.parse text = .ok doc) (hr : .record r ∈ doc.decls) :
      (document text).HasWiring (.ofRecord r)

def markedFields (w : Wiring) : Nat :=
  w.fields.countP (·.2)

/-- The codes of the defects that a declaration has. -/
def locatedCodes : List Code :=
  [.duplicateDeclaration, .markerWithPayload, .invalidName, .ambiguousIdentifier]

/-- A schema has a declaration with a defect, of which this diagnostic tells: its name was declared
before; it or one of its fields has a marker with arguments or a value; its name or that of one of
its fields cannot be written out; or it is to have a node id and more than one field is marked. -/
inductive Exhibits : Input → Diagnostic → Prop
  | repeated {i : Input} {before after : List String} {n : String}
      (hnames : i.Declares (before ++ n :: after)) (hagain : n ∈ before) :
      Exhibits i ((Diagnostic.error .duplicateDeclaration
        ("declaration " ++ n ++ " is defined more than once")).withDecl n)
  | payload {text : String} {items : List Item} {decl : String} {attrs : List Attribute}
      {a : Attribute} (hparse : parseFile text = .ok items)
      (hdecl : decl ∈ items.flatMap declaredNames) (hattrs : AttributesAt items decl attrs)
      (ha : a ∈ attrs) (hloaded : IsLoaded a) :
      Exhibits (.source text) ((Diagnostic.error .markerWithPayload
        ("#[" ++ a.path.text ++ "] takes no arguments")).withDecl decl)
  | declarationName {text : String} {doc : Document} {d : Declaration}
      (hparse : Document.parse text = .ok doc) (hd : d ∈ doc.decls)
      (hbad : isIdentifier d.name = false) :
      Exhibits (.document text) ((Diagnostic.error .invalidName
        ("declaration name " ++ Text.quoted d.name ++ " is not an identifier")).withDecl d.name)
  | fieldName {text : String} {doc : Document} {r : Record} {f : Field}
      (hparse : Document.parse text = .ok doc) (hr : .record r ∈ doc.decls) (hf : f ∈ r.fields)
      (hbad : isFieldName f.name = false) :
      Exhibits (.document text) ((Diagnostic.error .invalidName ("field name " ++
        Text.quoted f.name ++ " is not an identifier or tuple index")).withDecl r.name)
  | ambiguous {i : Input} {w : Wiring} (hw : i.HasWiring w) (hwanted : w.suppressed = false)
      (hcount : 2 ≤ markedFields w) :
      Exhibits i ((Diagnostic.error .ambiguousIdentifier ("record " ++ w.name ++ " has " ++
        toString (markedFields w) ++ " fields marked as node id (expected 0 or 1)")).withDecl
          w.name)

/-! ## The declaration that is named -/

theorem Exhibits.declared {i : Input} {g : Diagnostic} (h : Exhibits i g) :
    ∃ decl names, g.decl = some decl ∧ i.Declares names ∧ decl ∈ names := by
  cases h with
  | repeated hnames hagain =>
      exact ⟨_, _, rfl, hnames, List.mem_append_left _ hagain⟩
  | payload hparse hdecl _ _ _ => exact ⟨_, _, rfl, .source hparse, hdecl⟩
  | declarationName hparse hd _ =>
      exact ⟨_, _, rfl, .document hparse, List.mem_map_of_mem hd⟩
  | fieldName hparse hr _ _ =>
      exact ⟨_, _, rfl, .document hparse, List.mem_map.2 ⟨_, hr, rfl⟩⟩
  | ambiguous hw _ _ =>
      cases hw with
      | source hparse hd =>
          exact ⟨_, _, rfl, .source hparse, List.mem_flatMap.2 ⟨_, hd, List.mem_singleton.2 rfl⟩⟩
      | document hparse hr =>
          exact ⟨_, _, rfl, .document hparse, List.mem_map.2 ⟨_, hr, rfl⟩⟩

/-! ## Sources -/

theorem names_of_standsFor {i : Item} {ds : List Declaration} (h : StandsFor i ds) :
    ds.map Declaration.name = declaredNames i := by
  cases h with
  | record d _ _ => rfl
  | variant d _ => rfl
  | flagSets path content entries hpath hcontent _ =>
      rw [declaredNames, if_pos hpath, parseFlags_eq_ok.2 hcontent, List.map_map]
      rfl
  | nothing => rfl

theorem names_of_standFor {items : List Item} {ds : List Declaration} (h : StandFor items ds) :
    ds.map Declaration.name = items.flatMap declaredNames := by
  obtain ⟨parts, hparts, rfl⟩ := h
  induction hparts with
  | nil => rfl
  | cons hi _ ih =>
      rw [List.flatten_cons, List.map_append, List.flatMap_cons, names_of_standsFor hi, ih]

/-- What is wrong with an item is a marker of one of its declarations, or it has a code that is
about no declaration. -/
theorem payload_of_itemDefect {items : List Item} {i : Item} {e : Defect} (hi : i ∈ items)
    (h : itemDefect? i = some e) (hcode : e.code ∈ locatedCodes) :
    ∃ decl attrs a, decl ∈ declaredNames i ∧ AttributesAt items decl attrs ∧ a ∈ attrs ∧
      IsLoaded a ∧ e = .payload a.path.text decl := by
  have unlocated : Code.unsupportedItem ∉ locatedCodes ∧ Code.parseError ∉ locatedCodes := by
    decide
  cases i with
  | struct d =>
      rw [itemDefect?] at h
      split at h
      · cases h
        exact absurd hcode unlocated.1
      · obtain ⟨a, ha, hloaded, rfl⟩ := attrsDefect?_eq_some h
        rcases List.mem_append.1 ha with ha | ha
        · exact ⟨_, _, a, List.mem_singleton.2 rfl, .struct hi, ha, hloaded, rfl⟩
        · obtain ⟨f, hf, ha⟩ := List.mem_flatMap.1 ha
          exact ⟨_, _, a, List.mem_singleton.2 rfl, .field hi hf, ha, hloaded, rfl⟩
  | enum d =>
      obtain ⟨a, ha, hloaded, rfl⟩ := attrsDefect?_eq_some h
      exact ⟨_, _, a, List.mem_singleton.2 rfl, .enum hi, ha, hloaded, rfl⟩
  | invocation path content =>
      rw [itemDefect?] at h
      split at h
      · next hpath =>
        cases hcontent : parseFlags content with
        | error f =>
            rw [hcontent] at h
            cases h
            exact absurd hcode unlocated.2
        | ok entries =>
            rw [hcontent] at h
            obtain ⟨entry, hentry, h⟩ := List.exists_of_findSome?_eq_some h
            obtain ⟨a, ha, hloaded, rfl⟩ := attrsDefect?_eq_some h
            refine ⟨_, _, a, ?_, .entry hi hcontent hentry, ha, hloaded, rfl⟩
            rw [declaredNames, if_pos hpath, hcontent]
            exact List.mem_map_of_mem hentry
      · cases h
        exact absurd hcode unlocated.1
  | useItem => cases h
  | _ =>
      cases h
      exact absurd hcode unlocated.1

theorem exhibits_of_source {text : String} {e : Defect} (h : ofSource text = .error e)
    (hcode : e.code ∈ locatedCodes) : Exhibits (.source text) e.diagnostic := by
  cases hparse : parseFile text with
  | error f =>
      rw [ofSource, hparse] at h
      cases h
      exact absurd hcode (show Code.parseError ∉ locatedCodes by decide)
  | ok items =>
      rcases (ofSource_eq_error hparse).1 h with ⟨before, i, after, rfl, -, hi⟩ |
        ⟨ds, d, hds, ⟨before, after, rfl, -, hd⟩, rfl⟩
      · have hmem : i ∈ before ++ i :: after := List.mem_append_cons_self
        obtain ⟨decl, attrs, a, hdecl, hattrs, ha, hloaded, rfl⟩ :=
          payload_of_itemDefect hmem hi hcode
        exact .payload hparse (List.mem_flatMap.2 ⟨i, hmem, hdecl⟩) hattrs ha hloaded
      · have hnames : (Input.source text).Declares (items.flatMap declaredNames) := .source hparse
        rw [← names_of_standFor hds, List.map_append, List.map_cons] at hnames
        exact .repeated hnames hd

/-! ## Documents -/

theorem exhibits_of_refused {text : String} {g : Diagnostic} (h : Refused text g)
    (hcode : g.code ∈ locatedCodes) : Exhibits (.document text) g := by
  cases h with
  | undecoded _ => exact absurd hcode (show Code.parseError ∉ locatedCodes by decide)
  | version _ _ => exact absurd hcode (show Code.schemaVersionMismatch ∉ locatedCodes by decide)
  | declarationName hparse _ hdecls _ hbad =>
      exact .declarationName hparse (hdecls ▸ List.mem_append_cons_self) hbad
  | fieldName hparse _ hdecls _ _ hfields _ hbad =>
      exact .fieldName hparse (hdecls ▸ List.mem_append_cons_self)
        (hfields ▸ List.mem_append_cons_self) hbad
  | @duplicate doc again hparse _ _ hagain =>
      obtain ⟨before, after, hdecls, -, hd⟩ := hagain
      have hnames : (Input.document text).Declares (doc.decls.map Declaration.name) :=
        .document hparse
      rw [hdecls, List.map_append, List.map_cons] at hnames
      exact .repeated hnames hd

/-! ## Ambiguous records -/

theorem hasWiring_of_declarations {i : Input} {ds : List Declaration} {r : Record}
    (h : i.declarations = .ok ds) (hr : r ∈ recordsOf ds) : i.HasWiring (.ofRecord r) := by
  cases i with
  | source text =>
      obtain ⟨items, hparse⟩ : ∃ items, parseFile text = .ok items := by
        obtain ⟨items, hitems, -⟩ := Except.bind_ok_iff.1 h
        exact ⟨items, Except.mapError_ok_iff.1 hitems⟩
      have hw : Wiring.ofRecord r ∈ (recordsOf ds).map Wiring.ofRecord := List.mem_map_of_mem hr
      rw [wiring_of_ofSource hparse h] at hw
      obtain ⟨d, hd, hwiring⟩ := List.mem_map.1 hw
      obtain ⟨item, hitem, hstruct⟩ := List.mem_filterMap.1 hd
      cases item with
      | struct d' =>
          cases hstruct
          exact hwiring ▸ .source hparse hitem
      | _ => cases hstruct
  | document text =>
      obtain ⟨version, hparse, -⟩ := ofDocument_eq_ok.1 h
      obtain ⟨d, hd, hrecord⟩ := List.mem_filterMap.1 hr
      cases d with
      | record q =>
          cases hrecord
          exact .document hparse hd
      | _ => cases hrecord

theorem markedFields_ofRecord (r : Record) : markedFields (.ofRecord r) = markedCount r := by
  rw [markedFields, Wiring.ofRecord, List.countP_map]
  rfl

theorem exhibits_of_ambiguous {i : Input} {ds : List Declaration} {ts : String} {e : Error}
    (hds : i.declarations = .ok ds) (h : Generate.report ds ts = .error e) :
    Exhibits i e.diagnostic := by
  obtain ⟨before, r, after, hrecords, -, ⟨hwanted, hcount⟩, rfl⟩ := report_eq_error.1 h
  have hw := hasWiring_of_declarations hds (hrecords ▸ List.mem_append_cons_self)
  have suppressed : (Wiring.ofRecord r).suppressed = false :=
    Bool.eq_false_iff.2 fun hcontains => hwanted (AttrSet.contains_iff.1 hcontains)
  rw [← markedFields_ofRecord] at hcount
  have exhibited := Exhibits.ambiguous hw suppressed hcount
  rw [markedFields_ofRecord] at exhibited
  exact exhibited

/-! ## Runs -/

/-- A run fails because the schema is refused, or because a record is ambiguous. -/
theorem Input.report_eq_error {i : Input} {ts : String} {e : Error} :
    i.report ts = .error e ↔
      (∃ defect, i.declarations = .error defect ∧ e = .schema defect.diagnostic) ∨
      ∃ ds, i.declarations = .ok ds ∧ Generate.report ds ts = .error e := by
  simp only [Input.report, Except.bind_error_iff, Except.mapError_error_iff,
    Except.mapError_ok_iff, eq_comm (a := e)]

/-- What a run that fails tells of a declaration is what the schema exhibits. -/
theorem exhibits_of_report {i : Input} {ts : String} {e : Error} (h : i.report ts = .error e)
    (hcode : e.diagnostic.code ∈ locatedCodes) : Exhibits i e.diagnostic := by
  rcases Input.report_eq_error.1 h with ⟨defect, hdefect, rfl⟩ | ⟨ds, hds, hreport⟩
  · cases i with
    | source text => exact exhibits_of_source hdefect hcode
    | document text =>
        exact exhibits_of_refused
          (refused_iff.1 (Except.mapError_error_iff.2 ⟨defect, hdefect, rfl⟩)) hcode
  · exact exhibits_of_ambiguous hds hreport

/-- Whatever a run fails with, its phase and its advice are those of its code. -/
theorem phase_and_help {i : Input} {ts : String} {e : Error} (h : i.report ts = .error e) :
    e.diagnostic.phase = e.diagnostic.code.phase ∧
      e.diagnostic.help = e.diagnostic.code.help := by
  rcases Input.report_eq_error.1 h with ⟨defect, -, rfl⟩ | ⟨ds, -, hreport⟩
  · exact ⟨rfl, rfl⟩
  · obtain ⟨_, r, _, -, -, -, rfl⟩ := Generate.report_eq_error.1 hreport
    exact ⟨rfl, rfl⟩

/-! ## What is shown -/

/-- The part stands somewhere in the text. -/
def Contains (text part : String) : Prop :=
  ∃ before after, text = before ++ part ++ after

namespace Contains

variable {text part : String}

theorem refl (text : String) : Contains text text :=
  ⟨"", "", by simp⟩

theorem before (h : Contains text part) (front : String) : Contains (front ++ text) part := by
  obtain ⟨front', rest, rfl⟩ := h
  exact ⟨front ++ front', rest, by simp [String.append_assoc]⟩

theorem behind (h : Contains text part) (rest : String) : Contains (text ++ rest) part := by
  obtain ⟨front, rest', rfl⟩ := h
  exact ⟨front, rest' ++ rest, by simp [String.append_assoc]⟩

/-- A text that is joined from parts contains what one of them does. -/
theorem join {parts : List String} (hmem : text ∈ parts) (h : Contains text part) :
    Contains (String.join parts) part := by
  obtain ⟨front, rest, rfl⟩ := List.append_of_mem hmem
  rw [String.join_append, String.join_cons]
  exact (h.behind _).before _

end Contains

/-- A text has the number of a diagnostic's code, its message, and the declaration if it names
one. -/
structure Shows (text : String) (g : Diagnostic) : Prop where
  number : Contains text g.code.number
  message : Contains text g.message
  decl : ∀ decl, g.decl = some decl → Contains text decl

theorem shows_render (g : Diagnostic) : Shows g.render g where
  number := .join (by simp [Diagnostic.parts]) (.refl _)
  message := .join (by simp [Diagnostic.parts]) (.refl _)
  decl decl hdecl := by
    have line : "\n  in: " ++ decl ∈ g.parts := by simp [Diagnostic.parts, hdecl]
    exact .join line ((Contains.refl decl).before _)

/-! ## Runs of the program -/

theorem load_ofFile (path text : String) : ∃ told : List Declaration → Event,
    load path (.ok text.toUTF8) =
      ((Input.ofFile path text).declarations.map fun ds => (ds, told ds)).mapError
        fun defect => .loadSchema path defect.diagnostic := by
  rw [load, asText_toUTF8]
  dsimp only
  rw [loadText, Input.ofFile]
  split
  · refine ⟨fun ds => .documentLoaded ds.length, ?_⟩
    rw [Input.declarations]
    cases ofDocument text <;> rfl
  · refine ⟨fun ds => .sourceLoaded ds.length, ?_⟩
    rw [Input.declarations]
    cases ofSource text <;> rfl

/-- A job whose schema cannot be made into a document fails with the diagnostic, and leaves the tree
as it is. -/
theorem runJob_of_report_error {job : Job} {check : Bool} {ts text : String} {t : Tree}
    {e : Error} (hread : t.read job.schema = .ok text.toUTF8)
    (h : (Input.ofFile job.schema text).report ts = .error e) :
    ∃ o f, runJob Files.ofTree job check ts t = (o, t) ∧ o.failure = some f ∧
      (f = .loadSchema job.schema e.diagnostic ∨ f = .generate job.schema e.diagnostic) := by
  obtain ⟨told, hload⟩ := load_ofFile job.schema text
  rw [← hread] at hload
  rcases Input.report_eq_error.1 h with ⟨defect, hdefect, rfl⟩ | ⟨ds, hds, hreport⟩
  · rw [hdefect] at hload
    exact ⟨_, _, runJob_refused hload, rfl, .inl rfl⟩
  · have loaded : load job.schema (t.read job.schema) = .ok (ds, told ds) := by
      rw [hload, hds]
      rfl
    rw [runJob_ofTree, loaded]
    dsimp only
    rw [hreport]
    exact ⟨_, _, rfl, rfl, .inr rfl⟩

/-- Where a run fails with a code that is about a declaration, the schema has a declaration with
that defect, and it is the one that is named, in the message as well where it counts fields. The
phase and the advice are those of the code, whatever the code is. The diagnostic is shown with its
code, its message and the declaration, and a command that fails with it has the status 1 and prints
it, for a single schema or as the job of a batch. -/
theorem rejection_located {i : Input} {ts : String} {e : Error} (h : i.report ts = .error e) :
    (e.diagnostic.code ∈ locatedCodes → Exhibits i e.diagnostic ∧
      ∃ decl names, e.diagnostic.decl = some decl ∧ i.Declares names ∧ decl ∈ names) ∧
    e.diagnostic.phase = e.diagnostic.code.phase ∧
    e.diagnostic.help = e.diagnostic.code.help ∧
    Shows e.diagnostic.render e.diagnostic ∧
    ∀ now setting args t job check stamp verbose text,
      parseArgs? args = some ⟨.nodeIds job check stamp, verbose⟩ → stamp.getD now = ts →
      t.read job.schema = .ok text.toUTF8 → Input.ofFile job.schema text = i →
      ∃ res f, run Files.ofTree now setting args t = (res, t) ∧ res.status = 1 ∧
        res.failure = some f ∧ Contains f.message e.diagnostic.render ∧
        ∀ n, Contains (Failure.job n f).message e.diagnostic.render := by
  obtain ⟨hphase, hhelp⟩ := phase_and_help h
  refine ⟨fun hcode => ?_, hphase, hhelp, shows_render _, ?_⟩
  · have exhibited := exhibits_of_report h hcode
    exact ⟨exhibited, exhibited.declared⟩
  · rintro now setting args t job check stamp verbose text hargs rfl hread rfl
    have failed : ∃ o f, runJob Files.ofTree job check (stamp.getD now) t = (o, t) ∧
        o.failure = some f ∧
        (f = .loadSchema job.schema e.diagnostic ∨ f = .generate job.schema e.diagnostic) :=
      runJob_of_report_error hread h
    obtain ⟨o, f, hjob, hfailure, hf⟩ := failed
    have printed : run Files.ofTree now setting args t =
        (o.result (logFilter setting verbose), t) := by
      rw [run_ofTree hargs, runCommand, hjob]
    have shown : Contains f.message e.diagnostic.render := by
      rcases hf with rfl | rfl <;> exact (Contains.refl _).before _
    refine ⟨_, f, printed, ?_, hfailure, shown, fun n => shown.before _⟩
    simp [Outcome.result, hfailure]

/-- A source whose second record has two marked fields. -/
def twiceMarkedSource : String :=
  "struct A(u8); struct B { #[node_id] x: u8, y: u8, #[node_id] z: u8 }"

/-- The record is named, with the number of its marked fields, and the program prints it. -/
theorem twiceMarkedSource_rejected :
    Exhibits (.source twiceMarkedSource) ((Diagnostic.error .ambiguousIdentifier
      "record B has 2 fields marked as node id (expected 0 or 1)").withDecl "B") ∧
    ∃ res f, run Files.ofTree "now" none ["node-ids", "--schema", "s", "--out", "o"]
        ⟨[(["s"], .file twiceMarkedSource.toUTF8)]⟩ =
          (res, ⟨[(["s"], .file twiceMarkedSource.toUTF8)]⟩) ∧
      res.status = 1 ∧ res.failure = some f ∧
      Contains f.message ("AGN0200 Resolve Error: " ++
        "record B has 2 fields marked as node id (expected 0 or 1)\n  in: B\n" ++
        "  help: Keep #[node_id] (\"identifier-field\") on exactly one field, " ++
        "or mark the record #[no_node_id] (\"no-identifier\").") := by
  have failed : (Input.source twiceMarkedSource).report "now" =
      .error (.ambiguousIdentifier "B" 2) := by
    decide +kernel
  have hargs : parseArgs? ["node-ids", "--schema", "s", "--out", "o"] =
      some ⟨.nodeIds ⟨"s", "o"⟩ false none, false⟩ := by
    decide +kernel
  have rendered : (Error.ambiguousIdentifier "B" 2).diagnostic.render =
      "AGN0200 Resolve Error: " ++
        "record B has 2 fields marked as node id (expected 0 or 1)\n  in: B\n" ++
        "  help: Keep #[node_id] (\"identifier-field\") on exactly one field, " ++
        "or mark the record #[no_node_id] (\"no-identifier\")." := by
    decide +kernel
  obtain ⟨located, -, -, -, printed⟩ := rejection_located failed
  obtain ⟨res, f, hrun, hstatus, hf, hmessage, -⟩ :=
    printed "now" none _ ⟨[(["s"], .file twiceMarkedSource.toUTF8)]⟩ _ _ _ _ twiceMarkedSource
      hargs rfl rfl rfl
  rw [rendered] at hmessage
  exact ⟨(located (by decide)).1, res, f, hrun, hstatus, hf, hmessage⟩

end NodeIdGen.Cli
