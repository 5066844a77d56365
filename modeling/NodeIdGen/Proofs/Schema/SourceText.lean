import NodeIdGen.Generate.Report
import NodeIdGen.Proofs.Schema.SourceTokens
import NodeIdGen.Proofs.Syntax.Scanning

/-!
# Declarations in source form, as text

A list of declarations is written as a source text, one item below the other. The lexer reads the
tokens of the items from it, so the declarations are loaded from the text as they were; and as the
document of the same declarations gives them back as well, it does not matter in which of the two
languages a schema is written.
-/

namespace NodeIdGen.Schema

open NodeIdGen.Syntax NodeIdGen.Syntax.Parser
open Generate (nodeIdType)

/-! ## Writing -/

/-- An attribute that is one name. -/
def attributeText (n : String) : List Char :=
  "#[".toList ++ (n.toList ++ "] ".toList)

def AttrSet.text (s : AttrSet) : List Char :=
  s.attributeNames.flatMap attributeText

/-- A line with one field, which has a name unless it stands in parentheses. -/
def Field.line (round : Bool) (f : Field) : List Char :=
  "    ".toList ++ (f.attrs.text ++
    ((if round then [] else f.name.toList ++ ": ".toList) ++ (nodeIdType.toList ++ ",\n".toList)))

/-- The fields of a structure in parentheses or in braces. -/
def bodyText (round : Bool) (fs : List Field) : List Char :=
  if round then
    "(\n".toList ++ (fs.flatMap (Field.line true) ++ ")".toList) ++ ";\n".toList
  else
    " ".toList ++ ("\x7b\n".toList ++ (fs.flatMap (Field.line false) ++ "\x7d\n".toList))

/-- A record as a structure. -/
def Record.text (round : Bool) (r : Record) : List Char :=
  r.attrs.text ++ ("struct ".toList ++ (r.name.toList ++ bodyText round r.fields))

/-- A line with one alternative. -/
def alternativeLine (n : String) : List Char :=
  "    ".toList ++ (n.toList ++ ",\n".toList)

/-- A variant as an enumeration. -/
def Variant.text (v : Variant) : List Char :=
  v.attrs.text ++ ("enum ".toList ++ (v.name.toList ++ (" ".toList ++
    ("\x7b\n".toList ++ (v.variants.flatMap alternativeLine ++ "\x7d\n".toList)))))

/-- A line with one constant. -/
def flagLine (n : String) : List Char :=
  "        const ".toList ++ (n.toList ++ " = 0;\n".toList)

/-- A flag set as the entry of a flag block. -/
def FlagSet.entryText (f : FlagSet) : List Char :=
  "    ".toList ++ (f.attrs.text ++ ("struct ".toList ++ (f.name.toList ++
    (": ".toList ++ (bitsType.toList ++ " ".toList) ++
      ("\x7b\n".toList ++ (f.flags.flatMap flagLine ++ "    \x7d\n".toList))))))

/-- A flag set as a flag block. -/
def FlagSet.text (f : FlagSet) : List Char :=
  "bitflags! ".toList ++ ("\x7b\n".toList ++ (f.entryText ++ "\x7d\n".toList))

namespace Declaration

variable (round : Record → Bool)

/-- A declaration as an item; of each record it is given whether its fields stand in parentheses. -/
def text : Declaration → List Char
  | record r => r.text (round r)
  | variant v => v.text
  | flagSet f => f.text

/-- A declaration as an item, in tokens. -/
def tokens : Declaration → List Token
  | record r => r.tokens (round r)
  | variant v => v.tokens
  | flagSet f => f.tokens

/-- A declaration as the item that the grammar reads. -/
def item : Declaration → Item
  | record r => .struct (r.structDecl (round r))
  | variant v => .enum v.enumDecl
  | flagSet f => .invocation (.ofName "bitflags") f.entryTokens

/-- The declaration can be written in source form. -/
def Writable : Declaration → Prop
  | record r => r.Writable (round r)
  | variant v => WritableParts v.name v.attrs v.variants
  | flagSet f => WritableParts f.name f.attrs f.flags

instance : (d : Declaration) → Decidable (d.Writable round)
  | record r => inferInstanceAs (Decidable (r.Writable (round r)))
  | variant v => inferInstanceAs (Decidable (WritableParts v.name v.attrs v.variants))
  | flagSet f => inferInstanceAs (Decidable (WritableParts f.name f.attrs f.flags))

end Declaration

/-- The source text of the declarations. -/
def sourceText (round : Record → Bool) (ds : List Declaration) : String :=
  String.ofList (ds.flatMap (Declaration.text round))

/-! ## Reading the text -/

variable {round : Record → Bool} {d : Declaration}

theorem isWord_of_isIdentifier {n : String} (h : isIdentifier n = true) : IsWord n :=
  (isIdentifier_iff.1 h).1

theorem spells_attributeText {n : String} (hn : IsWord n) :
    Spells (attributeText n) (attributeTokens n) := by
  intro f rest
  have opening : ∀ us, Scans f ("#[".toList ++ us)
      ⟨[], (.bracket, .punct '#' false :: f.done) :: f.outer⟩ us :=
    fun us => Scans.fixed (k := 2) (by decide) fun _ => rfl
  have closing : Scans ⟨[.ident n], (.bracket, .punct '#' false :: f.done) :: f.outer⟩
      ("] ".toList ++ rest) ⟨.group .bracket [.ident n] :: .punct '#' false :: f.done, f.outer⟩
      rest := Scans.fixed (k := 2) (by decide) fun _ => rfl
  rw [attributeText, List.append_assoc, List.append_assoc]
  exact (opening _).trans ((Scans.word hn rfl).trans closing)

theorem spells_attrs {s : AttrSet} (h : s.Writable) : Spells s.text s.tokens :=
  Spells.flatMap fun n hn => spells_attributeText (isWord_of_isIdentifier (h.identifiers n hn))

theorem spells_margin : Spells "    ".toList [] :=
  .fixed (k := 4) (by decide) fun _ _ _ => rfl

theorem spells_struct : Spells "struct ".toList [.ident "struct"] :=
  .fixed (k := 2) (by decide) fun _ _ _ => rfl

theorem spells_blank : Spells " ".toList [] :=
  .fixed (k := 1) (by decide) fun _ _ _ => rfl

/-- Lines between braces, each of which ends its own line. -/
theorem spells_braces {cs : List Char} {ts : List Token} (h : Spells cs ts) :
    Spells ("\x7b\n".toList ++ (cs ++ "\x7d\n".toList)) [.group .brace ts] :=
  .group (fun _ _ => Scans.fixed (k := 2) (by decide) fun _ => rfl) h
    fun _ _ _ _ => Scans.fixed (k := 2) (by decide) fun _ => rfl

theorem spells_namedLine {f : Field} (hattrs : f.attrs.Writable) (hname : IsWord f.name) :
    Spells (f.line false) (f.namedTokens ++ [.punct ',' false]) := by
  have ty : Spells (": ".toList ++ (nodeIdType.toList ++ ",\n".toList))
      [.punct ':' false, .ident nodeIdType, .punct ',' false] :=
    .fixed (k := 5) (by decide) fun _ _ _ => rfl
  have named : Spells (f.name.toList ++ (": ".toList ++ (nodeIdType.toList ++ ",\n".toList)))
      [.ident f.name, .punct ':' false, .ident nodeIdType, .punct ',' false] :=
    .word hname (fun _ => rfl) ty
  have line : f.line false = "    ".toList ++ (f.attrs.text ++ (f.name.toList ++
      (": ".toList ++ (nodeIdType.toList ++ ",\n".toList)))) := by
    simp [Field.line]
  rw [line, Field.namedTokens, List.append_assoc]
  exact spells_margin.append ((spells_attrs hattrs).append named)

theorem spells_positionalLine {f : Field} (hattrs : f.attrs.Writable) :
    Spells (f.line true) (f.positionalTokens ++ [.punct ',' false]) := by
  have ty : Spells (nodeIdType.toList ++ ",\n".toList) [.ident nodeIdType, .punct ',' false] :=
    .fixed (k := 3) (by decide) fun _ _ _ => rfl
  rw [Field.positionalTokens, List.append_assoc]
  exact spells_margin.append ((spells_attrs hattrs).append ty)

theorem spells_bodyText {r : Record} {round : Bool} (h : r.Writable round) :
    Spells (bodyText round r.fields) (bodyTokens round r.fields) := by
  cases round with
  | true =>
      have lines := Spells.flatMap fun f hf => spells_positionalLine (h.fieldAttrs f hf)
      have group : Spells ("(\n".toList ++ (r.fields.flatMap (Field.line true) ++ ")".toList))
          [.group .parenthesis
            (r.fields.flatMap fun f => f.positionalTokens ++ [.punct ',' false])] :=
        .group (fun _ _ => Scans.fixed (k := 2) (by decide) fun _ => rfl) lines
          fun _ _ _ _ => Scans.fixed (k := 1) (by decide) fun _ => rfl
      have semicolon : Spells ";\n".toList [.punct ';' false] :=
        .fixed (k := 2) (by decide) fun _ _ _ => rfl
      exact group.append semicolon
  | false =>
      have lines := Spells.flatMap fun f hf =>
        spells_namedLine (h.fieldAttrs f hf) (isWord_of_isIdentifier (h.named rfl f hf))
      exact spells_blank.append (spells_braces lines)

theorem stops_bodyText (round : Bool) (fs : List Field) (rest : List Char) :
    stops (bodyText round fs ++ rest) = true := by
  cases round <;> rfl

theorem spells_record {r : Record} {round : Bool} (h : r.Writable round) :
    Spells (r.text round) (r.tokens round) := by
  have named := Spells.word (isWord_of_isIdentifier h.name) (stops_bodyText round r.fields)
    (spells_bodyText h)
  exact (spells_attrs h.attrs).append (spells_struct.append named)

theorem spells_variant {v : Variant} (h : WritableParts v.name v.attrs v.variants) :
    Spells v.text v.tokens := by
  have line : ∀ n ∈ v.variants, Spells (alternativeLine n) ([.ident n] ++ [.punct ',' false]) := by
    intro n hn
    have comma : Spells ",\n".toList [.punct ',' false] :=
      .fixed (k := 2) (by decide) fun _ _ _ => rfl
    exact spells_margin.append (.word (isWord_of_isIdentifier (h.parts n hn)) (fun _ => rfl) comma)
  have head : Spells "enum ".toList [.ident "enum"] :=
    .fixed (k := 2) (by decide) fun _ _ _ => rfl
  have named := Spells.word (isWord_of_isIdentifier h.name) (fun _ => rfl)
    (spells_blank.append (spells_braces (Spells.flatMap line)))
  exact (spells_attrs h.attrs).append (head.append named)

theorem spells_flagSet {f : FlagSet} (h : WritableParts f.name f.attrs f.flags) :
    Spells f.text f.tokens := by
  have line : ∀ n ∈ f.flags, Spells (flagLine n) (flagTokens n) := by
    intro n hn
    have head : Spells "        const ".toList [.ident "const"] :=
      .fixed (k := 10) (by decide) fun _ _ _ => rfl
    have value : Spells " = 0;\n".toList
        [.punct '=' false, .literal (.integer 0 ""), .punct ';' false] :=
      .fixed (k := 6) (by decide) fun _ _ _ => rfl
    exact head.append (.word (isWord_of_isIdentifier (h.parts n hn)) (fun _ => rfl) value)
  have lines : Spells ("\x7b\n".toList ++ (f.flags.flatMap flagLine ++ "    \x7d\n".toList))
      [.group .brace (f.flags.flatMap flagTokens)] :=
    .group (fun _ _ => Scans.fixed (k := 2) (by decide) fun _ => rfl) (Spells.flatMap line)
      fun _ _ _ _ => Scans.fixed (k := 6) (by decide) fun _ => rfl
  have bits : Spells (": ".toList ++ (bitsType.toList ++ " ".toList))
      [.punct ':' false, .ident bitsType] := .fixed (k := 4) (by decide) fun _ _ _ => rfl
  have named := Spells.word (isWord_of_isIdentifier h.name) (fun _ => rfl) (bits.append lines)
  have entry := spells_margin.append ((spells_attrs h.attrs).append (spells_struct.append named))
  have block : Spells "bitflags! ".toList [.ident "bitflags", .punct '!' false] :=
    .fixed (k := 3) (by decide) fun _ _ _ => rfl
  exact block.append (spells_braces entry)

theorem spells_text (h : d.Writable round) : Spells (d.text round) (d.tokens round) := by
  cases d with
  | record r => exact spells_record h
  | variant v => exact spells_variant h
  | flagSet f => exact spells_flagSet h

/-! ## Reading the items -/

variable {ds : List Declaration}

theorem runs_tokens_item (k : Nat) (h : d.Writable round) (rest : Rest) :
    Runs (grammar (k + 2)).item (d.tokens round ++ rest) (.ok (d.item round)) rest := by
  cases d with
  | record r => exact runs_struct k h
  | variant v => exact runs_enum k h
  | flagSet f => exact runs_invocation k f

theorem standsFor_item (h : d.Writable round) : StandsFor (d.item round) [d] := by
  cases d with
  | record r => exact standsFor_struct h
  | variant v => exact standsFor_enum h
  | flagSet f => exact standsFor_invocation h

/-- What the front of the items looks like, in characters and in tokens. -/
theorem attrs_front (s : AttrSet) : s.text = [] ∧ s.tokens = [] ∨
    ∃ cs n ts, s.text = '#' :: '[' :: cs ∧
      s.tokens = .punct '#' false :: .group .bracket [.ident n] :: ts := by
  rw [AttrSet.text, AttrSet.tokens]
  cases s.attributeNames with
  | nil => exact .inl ⟨rfl, rfl⟩
  | cons n ns => exact .inr ⟨_, n, _, rfl, rfl⟩

/-- Nothing in front of the items is taken for anything else. -/
theorem drop_text (ds : List Declaration) :
    dropByteOrderMark (ds.flatMap (Declaration.text round)) = ds.flatMap (Declaration.text round) ∧
      dropInterpreter (ds.flatMap (Declaration.text round)) =
        ds.flatMap (Declaration.text round) := by
  cases ds with
  | nil => exact ⟨rfl, rfl⟩
  | cons d ds =>
      rw [List.flatMap_cons]
      cases d with
      | record r =>
          rw [Declaration.text, Record.text]
          rcases attrs_front r.attrs with ⟨h, -⟩ | ⟨cs, n, ts, h, -⟩ <;> rw [h] <;> exact ⟨rfl, rfl⟩
      | variant v =>
          rw [Declaration.text, Variant.text]
          rcases attrs_front v.attrs with ⟨h, -⟩ | ⟨cs, n, ts, h, -⟩ <;> rw [h] <;> exact ⟨rfl, rfl⟩
      | flagSet f => exact ⟨rfl, rfl⟩

theorem tokens_front (d : Declaration) (ts : Rest) : d.tokens round ≠ [] ∧
    (Rest.atSymbol "#" (d.tokens round ++ ts) &&
      (Rest.second (d.tokens round ++ ts)).atSymbol "!") = false := by
  cases d with
  | record r =>
      rw [Declaration.tokens, Record.tokens]
      rcases attrs_front r.attrs with ⟨-, h⟩ | ⟨cs, n, ts, -, h⟩ <;> rw [h] <;>
        exact ⟨List.cons_ne_nil _ _, rfl⟩
  | variant v =>
      rw [Declaration.tokens, Variant.tokens]
      rcases attrs_front v.attrs with ⟨-, h⟩ | ⟨cs, n, ts, -, h⟩ <;> rw [h] <;>
        exact ⟨List.cons_ne_nil _ _, rfl⟩
  | flagSet f => exact ⟨List.cons_ne_nil _ _, rfl⟩

theorem parseFile_sourceText (h : ∀ d ∈ ds, d.Writable round) :
    parseFile (sourceText round ds) = .ok (ds.map (Declaration.item round)) := by
  have text : dropInterpreter (dropByteOrderMark (sourceText round ds).toList) =
      ds.flatMap (Declaration.text round) := by
    rw [sourceText, String.toList_ofList, (drop_text ds).1, (drop_text ds).2]
  have tokens : lex (ds.flatMap (Declaration.text round)) =
      some (ds.flatMap (Declaration.tokens round)) :=
    (Spells.flatMap fun d hd => spells_text (h d hd)).lex_eq (drop_text ds).1
  rw [parseFile, text, tokens, ← Except.mapM_ok]
  refine Runs.parseAll ((runs_innerAttributes _ ?_).discard.bind ?_)
  · cases ds with
    | nil => rfl
    | cons d ds => exact (tokens_front d _).2
  · refine Runs.toEnd (fun d _ => (tokens_front d []).1) fun d hd rest => ?_
    exact runs_tokens_item _ (h d hd) rest

/-! ## Both languages -/

theorem standFor_items (h : ∀ d ∈ ds, d.Writable round) :
    StandFor (ds.map (Declaration.item round)) ds := by
  have parts : (ds.map fun d => [d]).flatten = ds := by
    rw [← List.flatMap_def, List.flatMap_singleton']
  refine ⟨ds.map fun d => [d], ?_, parts⟩
  rw [List.forall₂_map_left_iff, List.forall₂_map_right_iff, List.forall₂_same]
  exact fun d hd => standsFor_item (h d hd)

theorem Declaration.Writable.fits (h : d.Writable round) :
    d.Fits (isIdentifier · = true) (isFieldName · = true) := by
  cases d with
  | record r =>
      refine ⟨Record.Writable.name h, fun r' hr f hf => ?_⟩
      cases hr
      cases hround : round r with
      | false => simp [isFieldName, Record.Writable.named h hround f hf]
      | true =>
          have position := List.mem_map_of_mem (f := Field.name) hf
          rw [Record.Writable.positional h hround] at position
          obtain ⟨n, -, hn⟩ := List.mem_map.1 position
          rw [isFieldName, ← hn, isPosition_toString, Bool.or_true]
  | variant v => exact fits_of_not_record (WritableParts.name h) (by simp [Declaration.kind])
  | flagSet f => exact fits_of_not_record (WritableParts.name h) (by simp [Declaration.kind])

/-- Declarations with different names that can be written in source form are loaded from their
source text and from their document alike, as they were; so the two give the same report, or the
same ambiguity, at any time. -/
theorem sourceText_agrees_with_document (h : ∀ d ∈ ds, d.Writable round)
    (hnodup : (ds.map Declaration.name).Nodup) :
    ofSource (sourceText round ds) = .ok ds ∧
      ofDocument (Document.encode ⟨documentVersion, ds⟩).render = .ok ds ∧
      ∀ ts, (ofSource (sourceText round ds)).map (Generate.report · ts) =
        (ofDocument (Document.encode ⟨documentVersion, ds⟩).render).map (Generate.report · ts) := by
  have source : ofSource (sourceText round ds) = .ok ds :=
    (ofSource_eq_ok (parseFile_sourceText h)).2 ⟨standFor_items h, hnodup⟩
  have document : ofDocument (Document.encode ⟨documentVersion, ds⟩).render = .ok ds :=
    ofDocument_render.2 ⟨fun d hd => (h d hd).fits, hnodup⟩
  refine ⟨source, document, fun ts => ?_⟩
  rw [source, document]

/-- Declarations of each kind, with a record in each form. -/
def mixedDecls : List Declaration :=
  [.record ⟨"A", .ofList [noIdentifier], [⟨"r#type", .ofList [identifierField, "m"]⟩, ⟨"é", ∅⟩]⟩,
   .record ⟨"B", ∅, [⟨"0", ∅⟩, ⟨"1", .ofList [identifierField]⟩]⟩,
   .variant ⟨"C", ∅, ["P", "Q"]⟩, .flagSet ⟨"D", .ofList ["r#doc"], ["X"]⟩]

theorem mixedDecls_in_both_languages :
    sourceText (fun r => r.name = "B") mixedDecls =
      "#[no_node_id] struct A \x7b\n    #[node_id] #[m] r#type: NodeId,\n    é: NodeId,\n\x7d\n" ++
        "struct B(\n    NodeId,\n    #[node_id] NodeId,\n);\nenum C \x7b\n    P,\n    Q,\n\x7d\n" ++
        "bitflags! \x7b\n    #[r#doc] struct D: u32 \x7b\n        const X = 0;\n    \x7d\n\x7d\n" ∧
    ofSource (sourceText (fun r => r.name = "B") mixedDecls) = .ok mixedDecls ∧
    ofDocument (Document.encode ⟨documentVersion, mixedDecls⟩).render = .ok mixedDecls := by
  have agree := @sourceText_agrees_with_document (fun r => r.name = "B") mixedDecls
    (by decide +kernel) (by decide)
  exact ⟨by decide +kernel, agree.1, agree.2.1⟩

end NodeIdGen.Schema
