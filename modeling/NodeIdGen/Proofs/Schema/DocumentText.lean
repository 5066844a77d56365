import NodeIdGen.Proofs.Json.ReadBack
import NodeIdGen.Proofs.Schema.Loading
import NodeIdGen.Proofs.Schema.WrittenForms

/-!
# Loading a document from any of its texts

A declaration is read from a text in one pass, the kind as soon as it is found and the other members
as values, which are decoded when the object has ended. This gives what decoding the whole value
gives, so that a document is loaded from every text of every value that it can be written as. The
nesting of such values stays far below what a reader admits.
-/

namespace NodeIdGen.Schema

open NodeIdGen.Json NodeIdGen.Json.Reader

variable {cs w : List Char}

/-! ## Declarations -/

theorem Kind.reads {k : Kind} {v : Json} (hk : Kind.ofValue v = .ok k) (h : Spells v cs) :
    Reads Kind.read cs k := by
  cases v with
  | string name =>
      intro rest
      have name : Kind.ofName name = .ok k := hk
      unfold Kind.read
      rw [bind_of_ok (reads_stringFor _ h rest), name]
      rfl
  | _ => cases hk

namespace Declaration

variable {n : Nat} {ms : List (String × Json)}

/-- A member is read as it is set apart among values. -/
theorem reads_member {found found' : Option Kind × List (String × Json)} {m : String × Json}
    {vs : List Char} (hm : Textual n m.2) (hstep : splitKind found m = .ok found') (hw : IsGap w)
    (h : Spells m.2 vs) : Reads (readMember n found m.1) (w ++ [':'] ++ vs) found' := by
  unfold splitKind at hstep
  unfold readMember
  split at hstep
  · next hname =>
    simp only [Except.bind_ok_iff, storeOnce_ok_iff, Except.pure_ok_iff] at hstep
    obtain ⟨_, ⟨hfound, k, hk, rfl⟩, rfl⟩ := hstep
    rw [if_pos hname, hfound]
    exact (reads_colon hw).bind ((Kind.reads hk h).bind_pure fun k => (some k, found.2))
  · next hname =>
    cases hstep
    rw [if_neg hname]
    exact (reads_colon hw).bind ((hm.reads h).bind_pure fun v => (found.1, (m.1, v) :: found.2))

theorem reads {d : Declaration} (hd : Declaration.decode (.object ms) = .ok d)
    (hms : Textual (n + 2) (.object ms)) (h : Spells (.object ms) cs) :
    Reads (Declaration.read (n + 2)) cs d := by
  cases hms with
  | object hms =>
      unfold Declaration.decode at hd
      dsimp only at hd
      rw [Except.bind_ok_iff] at hd
      obtain ⟨⟨kind, others⟩, hfold, hd⟩ := hd
      cases kind with
      | none => cases hd
      | some k =>
          have members : ∀ ps body, List.Forall₂ SpellsMember ms ps → Lists '\x7d' ps body →
              Reads (readMembers (n + 1)) body (k, .object others.reverse) := by
            intro ps body hps hbody rest
            have each : ReadsMembers (readMember (n + 1)) (none, []) ps (some k, others) :=
              readsMembers_of_foldlM hps
                (fun m hm _ _ hstep _ _ hw hvs => reads_member (hms m hm) hstep hw hvs) hfold
            unfold readMembers
            rw [bind_of_ok get_apply, bind_of_ok (memberRounds_lists each hbody rest)]
            rfl
          intro rest
          unfold Declaration.read
          rw [bind_of_ok (reads_structured members h rest)]
          dsimp only at hd ⊢
          rw [hd]
          rfl

theorem passes_read : Passes (Declaration.read n) :=
  (passes_structured _ _ _).bind _

theorem WrittenAs.reads {d : Declaration} {v : Json} (hv : d.WrittenAs v) (h : Spells v cs) :
    Reads (Declaration.read (n + 5)) cs d := by
  have hd := hv.decode
  have nesting := hv.textual n
  cases hv with
  | object _ _ => exact Declaration.reads hd nesting h

end Declaration

/-! ## Documents -/

namespace Document

theorem reads_version {d : DocumentDraft} (hd : d.version = none) {version : String}
    {vs : List Char} (hw : IsGap w) (h : Spells (.string version) vs) :
    Reads (readMember 127 d "schema_version") (w ++ [':'] ++ vs)
      { d with version := some version } := by
  unfold readMember
  rw [if_pos rfl, hd]
  exact (reads_colon hw).bind ((reads_stringFor "a string" h).bind_pure _)

theorem reads_decls {d : DocumentDraft} (hd : d.decls = none) {decls : List Declaration} {v : Json}
    {vs : List Char} (hv : ListWrittenAs Declaration.WrittenAs decls v) (hw : IsGap w)
    (h : Spells v vs) :
    Reads (readMember 127 d "decls") (w ++ [':'] ++ vs) { d with decls := some decls } := by
  cases hv with
  | array hdecls =>
      have each : ∀ v (d : Declaration), d.WrittenAs v → ∀ cs, Spells v cs →
          Reads (Declaration.read 126) cs d := fun _ _ hv _ h => hv.reads h
      have items := reads_sequence Declaration.passes_read (hdecls.flip.imp each) h
      unfold readMember
      rw [if_neg (by decide), if_pos rfl, hd]
      exact (reads_colon hw).bind (items.bind_pure _)

/-- A document is read from every text of every value that it can be written as. -/
theorem parse_of_writtenAs {d : Document} {v : Json} {text : String} (hv : d.WrittenAs v)
    (h : SpellsText v text) : parse text = .ok d := by
  cases hv with
  | @object decls ms hdecls hms =>
      have members : ∀ ps body, List.Forall₂ SpellsMember ms ps → Lists '\x7d' ps body →
          Reads (readMembers 127) body d := by
        intro ps body hps hbody rest
        have each : ReadsMembers (readMember 127) {} ps ⟨some d.version, some d.decls⟩ := by
          rcases List.perm_pair.1 hms with rfl | rfl
          · obtain _ | ⟨⟨_, _, hname, hvs, rfl⟩, _ | ⟨⟨_, _, hname', hvs', rfl⟩, _ | _⟩⟩ := hps
            exact .cons hname (fun _ hw => reads_version rfl hw hvs)
              (.cons hname' (fun _ hw => reads_decls rfl hdecls hw hvs') (.nil _))
          · obtain _ | ⟨⟨_, _, hname, hvs, rfl⟩, _ | ⟨⟨_, _, hname', hvs', rfl⟩, _ | _⟩⟩ := hps
            exact .cons hname (fun _ hw => reads_decls rfl hdecls hw hvs)
              (.cons hname' (fun _ hw => reads_version rfl hw hvs') (.nil _))
        unfold readMembers
        rw [bind_of_ok get_apply, bind_of_ok (memberRounds_lists each hbody rest)]
        rfl
      exact Reads.run h fun cs hcs => reads_structured members hcs

end Document

/-! ## The checks behind reading -/

/-- The version may stand between white space. -/
theorem isVersion_of_eq_append {before after : List Char} {wanted found : String}
    (hbefore : ∀ c ∈ before, Text.isBlank c = true) (hafter : ∀ c ∈ after, Text.isBlank c = true)
    (hwanted : Text.trim wanted.toList = wanted.toList)
    (hfound : found.toList = before ++ wanted.toList ++ after) : isVersion wanted found = true := by
  rw [isVersion, hfound, Text.trim_append hbefore hafter, hwanted]
  exact decide_eq_true rfl

/-- Declarations are loaded from every text that writes their document: the members of an object may
come in any order, lists without entries may be left out, markers may be in any order and repeated,
tokens and the version may stand between white space, and characters may be escaped. -/
theorem ofDocument_of_spelling {ds : List Declaration} (hnames : checkNames ds = .ok ())
    (hnodup : (ds.map Declaration.name).Nodup) {before after : List Char}
    (hbefore : ∀ c ∈ before, Text.isBlank c = true) (hafter : ∀ c ∈ after, Text.isBlank c = true)
    {version : String} (hversion : version.toList = before ++ documentVersion.toList ++ after)
    {v : Json} (hv : Document.WrittenAs ⟨version, ds⟩ v) {text : String}
    (htext : SpellsText v text) : ofDocument text = .ok ds := by
  refine ofDocument_eq_ok.2 ⟨version, Document.parse_of_writtenAs hv htext, ?_,
    checkNames_eq_ok.1 hnames, hnodup⟩
  exact isVersion_of_eq_append hbefore hafter (by decide) hversion

/-- A record with one field, which has two markers. -/
def shuffledDecls : List Declaration :=
  [.record ⟨"Leaf", ∅, [⟨"id", .ofList [identifierField, "serde"]⟩]⟩]

/-- The record with its field in front and its kind last. A marker of the field is repeated, and the
record's own list of markers is left out. -/
def shuffledRecord : Json :=
  .object [("fields", .array [.object
      [("attrs", .array (["serde", identifierField, "serde"].map .string)),
        ("name", .string "id")]]),
    ("name", .string "Leaf"), ("kind", .string "record")]

/-- A document with its declarations in front, and the version between white space. -/
def shuffledDocument : Json :=
  .object [("decls", .array [shuffledRecord]),
    ("schema_version", .string "\u2003astgen.schema@0.1.0\u00a0")]

/-- A text of the document, with white space and with an escape in the name of the kind. -/
def shuffledText : String :=
  "\x7b\"decls\": [\x7b\"fields\":[\x7b\"attrs\":" ++
    "[\"serde\",\"identifier-field\",\"serde\"],\"name\":\"id\"\x7d]," ++
    "\"name\":\"Leaf\", \"\\u006bind\" :\"record\"\x7d]," ++
    "\"schema_version\":\"\u2003astgen.schema@0.1.0\u00a0\"\x7d\n"

theorem shuffledRecord_written : ∀ d ∈ shuffledDecls, d.WrittenAs shuffledRecord := by
  refine List.forall_mem_singleton.2 ?_
  have markers : AttrSet.WrittenAs (.ofList [identifierField, "serde"])
      (.array (["serde", identifierField, "serde"].map .string)) := by
    refine .array fun m => ?_
    simp only [AttrSet.mem_ofList, List.mem_cons, List.not_mem_nil, or_false]
    tauto
  have field : Field.WrittenAs ⟨"id", .ofList [identifierField, "serde"]⟩ (.object
      [("attrs", .array (["serde", identifierField, "serde"].map .string)),
        ("name", .string "id")]) :=
    .object (.given markers) (.swap _ _ _)
  refine .object (.mk (.omitted rfl) (.given (.array (.cons field .nil))) (.swap _ _ _)) ?_
  exact List.perm_append_singleton _ [_, _]

theorem shuffledText_spelled : SpellsText shuffledDocument shuffledText := by
  have space : IsGap [' '] := List.forall_mem_singleton.2 (by decide)
  have kindName : SpellsName "kind" ([' '] ++ ("\"\\u006bind\"".toList ++ ([' '] ++ [':']))) := by
    have k : SpellsChar 'k' ['\\', 'u', '0', '0', '6', 'b'] :=
      .digits ⟨rfl, [0, 0, 6, 11], by decide, rfl⟩
    have plain : ∀ c ∈ ['i', 'n', 'd'], SpellsChar c [c] := by
      have within : ∀ c ∈ ['i', 'n', 'd'], 0x20 ≤ c.toNat ∧ c ≠ '"' ∧ c ≠ '\\' := by simp
      exact fun c hc => .plain (within c hc).1 (within c hc).2.1 (within c hc).2.2
    have ind : List.Forall₂ SpellsChar ['i', 'n', 'd'] [['i'], ['n'], ['d']] :=
      List.forall₂_map_right_iff.2 (List.forall₂_same.2 plain)
    have kind : List.Forall₂ SpellsChar "kind".toList _ := .cons k ind
    exact .mk space (.quoted kind) space
  obtain _ | _ | nested := (shuffledRecord_written _ List.mem_cons_self).textual 0
  have fields := spellsMember_print (nested _ List.mem_cons_self).spells_print
  have name : SpellsMember ("name", Json.string "Leaf") _ :=
    spellsMember_print (Textual.string 0 "Leaf").spells_print
  have kind : SpellsMember ("kind", .string "record") _ :=
    ⟨_, _, kindName, (Textual.string 0 "record").spells_print, rfl⟩
  have record : Spells shuffledRecord _ :=
    spells_object_iff.2 ⟨_, _, _, isGap_nil, .cons fields (.cons name (.cons kind .nil)),
      .cons (.cons isGap_nil (.cons isGap_nil (.nil isGap_nil))), rfl⟩
  have decls : SpellsMember ("decls", .array [shuffledRecord]) _ :=
    ⟨_, _, spellsName_printString "decls", spells_array_iff.2 ⟨_, _, _, space, .cons record .nil,
      .cons (.nil isGap_nil), rfl⟩, rfl⟩
  have version : SpellsMember
      ("schema_version", Json.string "\u2003astgen.schema@0.1.0\u00a0") _ :=
    spellsMember_print (Textual.string 0 _).spells_print
  have document : Spells shuffledDocument _ :=
    spells_object_iff.2 ⟨_, _, _, isGap_nil, .cons decls (.cons version .nil),
      .cons (.cons isGap_nil (.nil isGap_nil)), rfl⟩
  exact ⟨_, ['\n'], document, List.forall_mem_singleton.2 (by decide), by decide +kernel⟩

theorem ofDocument_shuffledText :
    checkNames shuffledDecls = .ok () ∧ (shuffledDecls.map Declaration.name).Nodup ∧
      ofDocument shuffledText = .ok shuffledDecls := by
  have hnames : checkNames shuffledDecls = .ok () := by
    decide +kernel
  have hnodup : (shuffledDecls.map Declaration.name).Nodup := by
    decide +kernel
  have written : Document.WrittenAs ⟨"\u2003astgen.schema@0.1.0\u00a0", shuffledDecls⟩
      shuffledDocument :=
    .object (.array (.cons (shuffledRecord_written _ List.mem_cons_self) .nil)) (.swap _ _ _)
  refine ⟨hnames, hnodup, ?_⟩
  have padded : "\u2003astgen.schema@0.1.0\u00a0".toList =
      ['\u2003'] ++ documentVersion.toList ++ ['\u00a0'] := by
    decide
  exact ofDocument_of_spelling hnames hnodup (List.forall_mem_singleton.2 (by decide))
    (List.forall_mem_singleton.2 (by decide)) padded written shuffledText_spelled

end NodeIdGen.Schema
