import NodeIdGen.Proofs.Schema.DocumentText
import NodeIdGen.Proofs.Schema.Language

/-!
# The language of schema documents

Which texts are accepted as schema documents, and what is said of all others. A text is checked four
times: it has to decode as a document, the document has to be of the current version, the names of
its declarations and of the fields of its records have to be fit to be written out, and no name may
be declared twice. The first check that fails decides what is reported, and where a check looks at
many names, the first of them that fails it. `Refused` has one constructor for each check (two for
the names), and each supposes what the checks before it have established.

Nothing is said here of which texts decode; the names of alternatives and of flags are looked at by
no check behind that, which the last part of `document_language` says of two documents. The message
about a text that does not decode is the wording of its fault, without the place in the text.
-/

namespace NodeIdGen.Schema

open NodeIdGen.Syntax

/-! ## Versions -/

/-- The version of a document is the current one, but for white space at its two ends. -/
def IsCurrent (version : String) : Prop :=
  ∃ before after, (∀ c ∈ before, Text.isBlank c = true) ∧ (∀ c ∈ after, Text.isBlank c = true) ∧
    version.toList = before ++ documentVersion.toList ++ after

theorem isVersion_iff {version : String} :
    isVersion documentVersion version = true ↔ IsCurrent version := by
  constructor
  · intro h
    have trimmed : Text.trim version.toList = documentVersion.toList := of_decide_eq_true h
    obtain ⟨before, after, hbefore, hafter, hversion⟩ := Text.exists_append_trim version.toList
    exact ⟨before, after, hbefore, hafter, trimmed ▸ hversion⟩
  · rintro ⟨before, after, hbefore, hafter, hversion⟩
    exact isVersion_of_eq_append hbefore hafter (by decide) hversion

/-! ## Names -/

/-- The names of a declaration that a document is checked for: its own, and those of its fields. -/
def Declaration.checkedNames : Declaration → String × List String
  | .record r => (r.name, r.fields.map Field.name)
  | .variant v => (v.name, [])
  | .flagSet f => (f.name, [])

/-- All names of a declaration that are checked are fit to be written out. -/
def Declaration.IsFit (d : Declaration) : Prop :=
  d.Fits (isIdentifier · = true) (isFieldName · = true)

theorem Declaration.checkedNames_fst (d : Declaration) : d.checkedNames.1 = d.name := by
  cases d <;> rfl

theorem nameDefect?_eq (d : Declaration) :
    nameDefect? d = if isIdentifier d.checkedNames.1 then
        (d.checkedNames.2.find? fun n => !isFieldName n).map (.fieldName · d.checkedNames.1)
      else some (.declarationName d.checkedNames.1) := by
  unfold nameDefect?
  rw [d.checkedNames_fst]
  cases d with
  | record r =>
      simp only [Declaration.checkedNames, List.find?_map, Option.map_map, badField?]
      rfl
  | variant v => rfl
  | flagSet f => rfl

/-- A declaration has a bad name, or a good one and a field with a bad name in front of which all
fields are good. -/
theorem nameDefect?_eq_some {d : Declaration} {e : Defect} :
    nameDefect? d = some e ↔
      (isIdentifier d.name = false ∧ e = .declarationName d.name) ∨
      ∃ r earlier f later, d = .record r ∧ isIdentifier r.name = true ∧
        r.fields = earlier ++ f :: later ∧ (∀ g ∈ earlier, isFieldName g.name = true) ∧
        isFieldName f.name = false ∧ e = .fieldName f.name r.name := by
  unfold nameDefect?
  cases hname : isIdentifier d.name with
  | false =>
      constructor
      · intro h
        cases h
        exact .inl ⟨rfl, rfl⟩
      · rintro (⟨-, rfl⟩ | ⟨r, _, _, _, rfl, hr, -⟩)
        · rfl
        · cases hname.symm.trans hr
  | true =>
      cases d with
      | record r =>
          simp only [if_true, badField?, Option.map_eq_some_iff, List.find?_eq_some_iff_append,
            Bool.not_eq_eq_eq_not, Bool.not_true, Bool.not_false]
          constructor
          · rintro ⟨f, ⟨hf, earlier, later, hfields, hearlier⟩, rfl⟩
            exact .inr ⟨r, earlier, f, later, rfl, hname, hfields, hearlier, hf, rfl⟩
          · rintro (⟨h, -⟩ | ⟨_, earlier, f, later, hr, -, hfields, hearlier, hf, rfl⟩)
            · cases h
            · cases hr
              exact ⟨f, ⟨hf, earlier, later, hfields, hearlier⟩, rfl⟩
      | variant v => simp
      | flagSet s => simp

/-- The check of names ends at the first declaration of which a name does not fit. -/
theorem checkNames_eq_error {ds : List Declaration} {e : Defect} :
    checkNames ds = .error e ↔ ∃ before d after, ds = before ++ d :: after ∧
      (∀ b ∈ before, b.IsFit) ∧ nameDefect? d = some e := by
  have found : checkNames ds = .error e ↔ ds.findSome? nameDefect? = some e := by
    rw [checkNames]
    cases ds.findSome? nameDefect? <;> simp
  rw [found, List.findSome?_eq_some_iff]
  simp only [nameDefect?_eq_none]
  constructor
  · rintro ⟨before, d, after, hds, hd, hbefore⟩
    exact ⟨before, d, after, hds, hbefore, hd⟩
  · rintro ⟨before, d, after, hds, hbefore, hd⟩
    exact ⟨before, d, after, hds, hd, hbefore⟩

/-! ## What is refused -/

/-- The text is refused with this diagnostic. -/
inductive Refused (text : String) : Diagnostic → Prop
  | undecoded {f : Json.Fault} (hparse : Document.parse text = .error f) :
      Refused text (.error .parseError ("invalid schema JSON: " ++ f.message))
  | version {d : Document} (hparse : Document.parse text = .ok d)
      (hversion : ¬ IsCurrent d.version) :
      Refused text (.error .schemaVersionMismatch ("schema_version mismatch: expected " ++
        documentVersion ++ " got " ++ Text.quoted d.version))
  | declarationName {d : Document} {before after : List Declaration} {bad : Declaration}
      (hparse : Document.parse text = .ok d) (hversion : IsCurrent d.version)
      (hdecls : d.decls = before ++ bad :: after) (hbefore : ∀ b ∈ before, b.IsFit)
      (hbad : isIdentifier bad.name = false) :
      Refused text ((Diagnostic.error .invalidName ("declaration name " ++ Text.quoted bad.name ++
        " is not an identifier")).withDecl bad.name)
  | fieldName {d : Document} {before after : List Declaration} {r : Record}
      {earlier later : List Field} {bad : Field}
      (hparse : Document.parse text = .ok d) (hversion : IsCurrent d.version)
      (hdecls : d.decls = before ++ .record r :: after) (hbefore : ∀ b ∈ before, b.IsFit)
      (hname : isIdentifier r.name = true) (hfields : r.fields = earlier ++ bad :: later)
      (hearlier : ∀ f ∈ earlier, isFieldName f.name = true) (hbad : isFieldName bad.name = false) :
      Refused text ((Diagnostic.error .invalidName ("field name " ++ Text.quoted bad.name ++
        " is not an identifier or tuple index")).withDecl r.name)
  | duplicate {d : Document} {again : Declaration} (hparse : Document.parse text = .ok d)
      (hversion : IsCurrent d.version) (hnames : ∀ b ∈ d.decls, b.IsFit)
      (hagain : FirstRepeated d.decls again) :
      Refused text ((Diagnostic.error .duplicateDeclaration ("declaration " ++ again.name ++
        " is defined more than once")).withDecl again.name)

/-- The checks, one behind the other. -/
theorem ofDocument_eq_error {text : String} {e : Defect} :
    ofDocument text = .error e ↔
      (∃ f, Document.parse text = .error f ∧ .document f = e) ∨
      ∃ d, Document.parse text = .ok d ∧
        ((¬ IsCurrent d.version ∧ .version d.version = e) ∨
          (IsCurrent d.version ∧ (checkNames d.decls = .error e ∨
            (checkNames d.decls = .ok () ∧ checkUnique d.decls = .error e)))) := by
  simp only [ofDocument, Except.bind_error_iff, Except.mapError_error_iff,
    Except.mapError_ok_iff, Except.guard_error_iff, Except.pure_not_error, and_false, exists_false,
    or_false, Bool.not_eq_true', ← Bool.not_eq_true, isVersion_iff, not_not]
  refine or_congr_right (exists_congr fun d => and_congr_right fun _ => ?_)
  exact or_congr_right (and_congr_right fun _ => or_congr_right Unique.exists_iff)

theorem refused_of_nameDefect {text : String} {d : Document} {before after : List Declaration}
    {bad : Declaration} {e : Defect} (hparse : Document.parse text = .ok d)
    (hversion : IsCurrent d.version) (hdecls : d.decls = before ++ bad :: after)
    (hbefore : ∀ b ∈ before, b.IsFit) (he : nameDefect? bad = some e) :
    Refused text e.diagnostic := by
  rcases nameDefect?_eq_some.1 he with ⟨hbad, rfl⟩ |
    ⟨r, earlier, f, later, rfl, hname, hfields, hearlier, hf, rfl⟩
  · exact .declarationName hparse hversion hdecls hbefore hbad
  · exact .fieldName hparse hversion hdecls hbefore hname hfields hearlier hf

/-- A text that is not accepted is refused with the diagnostic of the first check that fails. -/
theorem refused_iff {text : String} {g : Diagnostic} :
    (ofDocument text).mapError Defect.diagnostic = .error g ↔ Refused text g := by
  simp only [Except.mapError_error_iff, ofDocument_eq_error]
  constructor
  · rintro ⟨e, ⟨f, hparse, rfl⟩ | ⟨d, hparse, ⟨hversion, rfl⟩ | ⟨hversion, h⟩⟩, rfl⟩
    · exact .undecoded hparse
    · exact .version hparse hversion
    · rcases h with hnames | ⟨hnames, hunique⟩
      · obtain ⟨before, bad, after, hdecls, hbefore, he⟩ := checkNames_eq_error.1 hnames
        exact refused_of_nameDefect hparse hversion hdecls hbefore he
      · obtain ⟨again, hagain, rfl⟩ := checkUnique_eq_error.1 hunique
        exact .duplicate hparse hversion (checkNames_eq_ok.1 hnames) hagain
  · intro h
    cases h with
    | undecoded hparse => exact ⟨_, .inl ⟨_, hparse, rfl⟩, rfl⟩
    | version hparse hversion => exact ⟨_, .inr ⟨_, hparse, .inl ⟨hversion, rfl⟩⟩, rfl⟩
    | declarationName hparse hversion hdecls hbefore hbad =>
        have he := nameDefect?_eq_some.2 (.inl ⟨hbad, rfl⟩)
        have hnames := checkNames_eq_error.2 ⟨_, _, _, hdecls, hbefore, he⟩
        exact ⟨_, .inr ⟨_, hparse, .inr ⟨hversion, .inl hnames⟩⟩, rfl⟩
    | fieldName hparse hversion hdecls hbefore hname hfields hearlier hbad =>
        have he := nameDefect?_eq_some.2
          (.inr ⟨_, _, _, _, rfl, hname, hfields, hearlier, hbad, rfl⟩)
        have hnames := checkNames_eq_error.2 ⟨_, _, _, hdecls, hbefore, he⟩
        exact ⟨_, .inr ⟨_, hparse, .inr ⟨hversion, .inl hnames⟩⟩, rfl⟩
    | duplicate hparse hversion hnames hagain =>
        have hunique := checkUnique_eq_error.2 ⟨_, hagain, rfl⟩
        have hnames := checkNames_eq_ok.2 hnames
        exact ⟨_, .inr ⟨_, hparse, .inr ⟨hversion, .inr ⟨hnames, hunique⟩⟩⟩, rfl⟩

/-! ## What no check looks at -/

theorem checkNames_congr {ds es : List Declaration}
    (h : ds.map Declaration.checkedNames = es.map Declaration.checkedNames) :
    checkNames ds = checkNames es := by
  obtain ⟨defect, hdefect⟩ : ∃ f, nameDefect? = f ∘ Declaration.checkedNames := by
    refine ⟨fun names => if isIdentifier names.1 then
        (names.2.find? fun n => !isFieldName n).map (.fieldName · names.1)
      else some (.declarationName names.1), ?_⟩
    exact funext nameDefect?_eq
  rw [checkNames, checkNames, hdefect, ← List.findSome?_map, ← List.findSome?_map, h]

theorem checkUnique_congr {ds es : List Declaration}
    (h : ds.map Declaration.checkedNames = es.map Declaration.checkedNames) :
    checkUnique ds = checkUnique es := by
  have names (ds : List Declaration) :
      ds.map Declaration.name = (ds.map Declaration.checkedNames).map Prod.fst := by
    rw [List.map_map]
    exact List.map_congr_left fun d _ => d.checkedNames_fst.symm
  rw [checkUnique, checkUnique, names, names, h]

/-- Of two documents of the same version with the same names of declarations and fields, both are
accepted or both are refused for the same reason. -/
theorem ofDocument_congr {text other : String} {d e : Document}
    (hd : Document.parse text = .ok d) (he : Document.parse other = .ok e)
    (hversion : d.version = e.version)
    (hnames : d.decls.map Declaration.checkedNames = e.decls.map Declaration.checkedNames) :
    (ofDocument text).map (fun _ => ()) = (ofDocument other).map (fun _ => ()) := by
  rw [ofDocument, ofDocument, hd, he]
  simp only [Except.mapError, bind, Except.bind, hversion, checkNames_congr hnames,
    checkUnique_congr hnames]
  split <;> cases checkNames e.decls <;> cases checkUnique e.decls <;> rfl

/-! ## The language -/

/-- A text is accepted exactly if it decodes as a document of the current version in which all names
are fit to be written out and no name is declared twice, and what is loaded are the declarations
that were decoded. Any other text is refused with the diagnostic of the first check that it fails.
The names of alternatives and flags change nothing about that. -/
theorem document_language (text : String) :
    (∀ ds, ofDocument text = .ok ds ↔ ∃ version, Document.parse text = .ok ⟨version, ds⟩ ∧
      IsCurrent version ∧ (∀ d ∈ ds, d.IsFit) ∧ (ds.map Declaration.name).Nodup) ∧
    (∀ g, (ofDocument text).mapError Defect.diagnostic = .error g ↔ Refused text g) ∧
    ∀ other d e, Document.parse text = .ok d → Document.parse other = .ok e →
      d.version = e.version →
      d.decls.map Declaration.checkedNames = e.decls.map Declaration.checkedNames →
      (ofDocument text).map (fun _ => ()) = (ofDocument other).map (fun _ => ()) := by
  refine ⟨fun ds => ?_, fun g => refused_iff, fun other d e hd he hversion hnames => ?_⟩
  · rw [ofDocument_eq_ok]
    simp only [isVersion_iff, Declaration.IsFit]
  · exact ofDocument_congr hd he hversion hnames

/-- A document with four defects: two fields that cannot be written out in the second declaration, a
name that is declared twice, and a reserved word as the name of the last declaration. -/
def defectiveText : String :=
  "\x7b\"schema_version\":\" astgen.schema@0.1.0\",\"decls\":[" ++
    "\x7b\"kind\":\"variant\",\"name\":\"A\",\"variants\":[\"fn\",\"1 2\"]\x7d," ++
    "\x7b\"kind\":\"record\",\"name\":\"B\",\"fields\":[" ++
      "\x7b\"name\":\"0\"\x7d,\x7b\"name\":\"01\"\x7d,\x7b\"name\":\"x y\"\x7d]\x7d," ++
    "\x7b\"kind\":\"record\",\"name\":\"A\"\x7d," ++
    "\x7b\"kind\":\"flag_set\",\"name\":\"fn\"\x7d]\x7d"

/-- The first of the two fields is what is reported. -/
theorem defectiveText_refused :
    (ofDocument defectiveText).mapError Defect.diagnostic =
      .error ((Diagnostic.error .invalidName
        "field name \"01\" is not an identifier or tuple index").withDecl "B") ∧
    Refused defectiveText ((Diagnostic.error .invalidName
      "field name \"01\" is not an identifier or tuple index").withDecl "B") := by
  have refused : (ofDocument defectiveText).mapError Defect.diagnostic =
      .error ((Diagnostic.error .invalidName
        "field name \"01\" is not an identifier or tuple index").withDecl "B") := by
    decide +kernel
  exact ⟨refused, ((document_language defectiveText).2.1 _).1 refused⟩

end NodeIdGen.Schema
