import NodeIdGen.Proofs.Schema.Loading
import NodeIdGen.Proofs.Syntax.FlagGrammar

/-!
# The schema language

Which source texts are schemas, and which declarations they stand for. `StandsFor` says it of one
item: a structure without generic parameters is a record, an enumeration a variant, each entry of a
flag block a flag set, an import nothing; and the two attributes with a meaning have no arguments.
A source text is accepted exactly if each of its items stands for something and no name is declared
twice, and its declarations are then those of its items, one behind the other.

The error of any other text is that of its first item that stands for nothing. Only if there is none
it is the first name that was declared before.
-/

namespace NodeIdGen.Schema

open NodeIdGen.Syntax

/-! ## Attributes -/

/-- The attribute is one of the two with a meaning, and has arguments or a value. -/
def IsLoaded (a : Attribute) : Prop :=
  (a.path = .ofName "node_id" ∨ a.path = .ofName "no_node_id") ∧ a.payload = true

instance (a : Attribute) : Decidable (IsLoaded a) :=
  inferInstanceAs (Decidable (_ ∧ _))

/-- No attribute with a meaning has arguments or a value. -/
def Bare (attrs : List Attribute) : Prop :=
  ∀ a ∈ attrs, ¬ IsLoaded a

/-- The marker of an attribute that is no documentation. -/
def markerOf? (a : Attribute) : Option String :=
  if a.path = .ofName "doc" then none
  else if a.path = .ofName "node_id" then some identifierField
  else if a.path = .ofName "no_node_id" then some noIdentifier
  else some a.path.text

def markersOf (attrs : List Attribute) : AttrSet :=
  .ofList (attrs.filterMap markerOf?)

/-- The defect of an attribute with a meaning that has arguments or a value. -/
def loadDefect? (decl : String) (a : Attribute) : Option Defect :=
  if IsLoaded a then some (.payload a.path.text decl) else none

/-- The defect of the first attribute that has one. -/
def attrsDefect? (decl : String) (attrs : List Attribute) : Option Defect :=
  attrs.findSome? (loadDefect? decl)

theorem attrsDefect?_eq_none {decl : String} {attrs : List Attribute} :
    attrsDefect? decl attrs = none ↔ Bare attrs := by
  simp [attrsDefect?, loadDefect?, Bare]

theorem attrsDefect?_append (decl : String) (as bs : List Attribute) :
    attrsDefect? decl (as ++ bs) = (attrsDefect? decl as).or (attrsDefect? decl bs) :=
  List.findSome?_append

theorem bare_append {as bs : List Attribute} : Bare (as ++ bs) ↔ Bare as ∧ Bare bs :=
  List.forall_mem_append

theorem marker?_eq (a : Attribute) (decl : String) :
    marker? a decl = (loadDefect? decl a).elim (.ok (markerOf? a)) .error := by
  have id_text : (Path.ofName "node_id").text = "node_id" := rfl
  have no_id_text : (Path.ofName "no_node_id").text = "no_node_id" := rfl
  obtain ⟨path, payload⟩ := a
  simp only [marker?, loadDefect?, markerOf?, IsLoaded, Path.isName, decide_eq_true_eq]
  by_cases hdoc : path = .ofName "doc"
  · subst hdoc
    rfl
  · by_cases hid : path = .ofName "node_id"
    · subst hid
      cases payload <;> rfl
    · by_cases hno : path = .ofName "no_node_id"
      · subst hno
        cases payload <;> rfl
      · simp [hdoc, hid, hno]

theorem markers_eq (attrs : List Attribute) (decl : String) :
    markers attrs decl = (attrsDefect? decl attrs).elim (.ok (markersOf attrs)) .error := by
  have all := Except.mapM_eq_findSome? (fun a => marker?_eq a decl) attrs
  rw [markers, all, attrsDefect?]
  cases attrs.findSome? (loadDefect? decl) with
  | none => simp [markersOf, List.filterMap_map]
  | some e => rfl

/-! ## Structures, enumerations and flag blocks -/

/-- The field that stands at the given place. -/
def fieldOf (place : Nat) (f : FieldDecl) : Field :=
  ⟨f.name.getD (toString place), markersOf f.attrs⟩

def recordOf (d : StructDecl) : Record :=
  ⟨d.name, markersOf d.attrs, d.fields.mapIdx fieldOf⟩

def variantOf (d : EnumDecl) : Variant :=
  ⟨d.name, markersOf d.attrs, d.alternatives⟩

def flagSetOf (e : FlagDecl) : FlagSet :=
  ⟨e.name, markersOf e.attrs, e.flags⟩

/-- The attributes of a structure and its fields, in the order in which they stand. -/
def attrsOf (d : StructDecl) : List Attribute :=
  d.attrs ++ d.fields.flatMap FieldDecl.attrs

theorem recordFields_eq (decl : String) (k : Nat) (fs : List FieldDecl) :
    recordFields decl k fs =
      (attrsDefect? decl (fs.flatMap FieldDecl.attrs)).elim
        (.ok (fs.mapIdx fun i f => fieldOf (k + i) f)) .error := by
  induction fs generalizing k with
  | nil => rfl
  | cons f fs ih =>
      rw [recordFields, markers_eq, ih, List.flatMap_cons, attrsDefect?_append, List.mapIdx_cons]
      have next : ∀ i, k + 1 + i = k + (i + 1) := by omega
      cases attrsDefect? decl f.attrs with
      | some e => rfl
      | none =>
          simp only [next]
          cases attrsDefect? decl (fs.flatMap FieldDecl.attrs) <;> rfl

theorem ofStruct_eq (d : StructDecl) :
    ofStruct d =
      (if d.generic then some (.genericRecord d.name) else attrsDefect? d.name (attrsOf d)).elim
        (.ok (recordOf d)) .error := by
  rw [ofStruct, markers_eq, recordFields_eq, attrsOf, attrsDefect?_append]
  simp only [Nat.zero_add]
  cases d.generic with
  | true => rfl
  | false =>
      cases attrsDefect? d.name d.attrs with
      | some e => rfl
      | none => cases attrsDefect? d.name (d.fields.flatMap FieldDecl.attrs) <;> rfl

theorem ofEnum_eq (d : EnumDecl) :
    ofEnum d = (attrsDefect? d.name d.attrs).elim (.ok (variantOf d)) .error := by
  rw [ofEnum, markers_eq]
  cases attrsDefect? d.name d.attrs <;> rfl

theorem ofFlags_eq (e : FlagDecl) :
    ofFlags e = (attrsDefect? e.name e.attrs).elim (.ok (flagSetOf e)) .error := by
  rw [ofFlags, markers_eq]
  cases attrsDefect? e.name e.attrs <;> rfl

/-! ## Items -/

/-- The item is part of the schema language and stands for these declarations. -/
inductive StandsFor : Item → List Declaration → Prop
  | record (d : StructDecl) (hgeneric : d.generic = false) (hattrs : Bare (attrsOf d)) :
      StandsFor (.struct d) [.record (recordOf d)]
  | variant (d : EnumDecl) (hattrs : Bare d.attrs) : StandsFor (.enum d) [.variant (variantOf d)]
  | flagSets (path : Path) (content : List Token) (entries : List FlagDecl)
      (hpath : path.lastName? = some "bitflags") (hcontent : IsFlagBlock content entries)
      (hattrs : ∀ e ∈ entries, Bare e.attrs) :
      StandsFor (.invocation path content) (entries.map fun e => .flagSet (flagSetOf e))
  | nothing : StandsFor .useItem []

/-- What is wrong with an item, if anything is. -/
def itemDefect? : Item → Option Defect
  | .struct d => if d.generic then some (.genericRecord d.name) else attrsDefect? d.name (attrsOf d)
  | .enum d => attrsDefect? d.name d.attrs
  | .useItem => none
  | .invocation path content =>
    if path.lastName? = some "bitflags" then
      match parseFlags content with
      | .ok entries => entries.findSome? fun e => attrsDefect? e.name e.attrs
      | .error f => some (.flagBlock f)
    else some (.unsupported "macro invocation" path.text)
  | .function name => some (.unsupported "fn" name)
  | .typeAlias name => some (.unsupported "type alias" name)
  | .union name => some (.unsupported "union" name)
  | .trait name => some (.unsupported "trait" name)
  | .constant name => some (.unsupported "const" name)
  | .static name => some (.unsupported "static" name)
  | .module name => some (.unsupported "mod" name)
  | .implementation _ => some (.unsupported "impl" none)
  | .other => some (.unsupported "item" none)

theorem ofItem_struct (d : StructDecl) :
    ofItem (.struct d) =
      (itemDefect? (.struct d)).elim (.ok [.record (recordOf d)]) .error := by
  rw [ofItem, ofStruct_eq, Except.elim_bind]
  rfl

theorem ofItem_enum (d : EnumDecl) :
    ofItem (.enum d) = (itemDefect? (.enum d)).elim (.ok [.variant (variantOf d)]) .error := by
  rw [ofItem, ofEnum_eq, Except.elim_bind]
  rfl

theorem ofItem_flags {path : Path} {content : List Token} {entries : List FlagDecl}
    (hpath : path.lastName? = some "bitflags") (h : parseFlags content = .ok entries) :
    ofItem (.invocation path content) =
      (itemDefect? (.invocation path content)).elim
        (.ok (entries.map fun e => .flagSet (flagSetOf e))) .error := by
  have entry : ∀ e, Declaration.flagSet <$> ofFlags e =
      (attrsDefect? e.name e.attrs).elim (.ok (.flagSet (flagSetOf e))) .error := by
    intro e
    rw [ofFlags_eq]
    cases attrsDefect? e.name e.attrs <;> rfl
  rw [ofItem, itemDefect?, if_pos hpath, if_pos hpath, h]
  exact Except.mapM_eq_findSome? entry entries

/-- The defect of an item is what loading it ends with. -/
theorem ofItem_eq_error {i : Item} {e : Defect} : ofItem i = .error e ↔ itemDefect? i = some e := by
  cases i with
  | struct d => rw [ofItem_struct, Except.elim_error_iff]
  | enum d => rw [ofItem_enum, Except.elim_error_iff]
  | invocation path content =>
      by_cases hpath : path.lastName? = some "bitflags"
      · cases h : parseFlags content with
        | ok entries => rw [ofItem_flags hpath h, Except.elim_error_iff]
        | error f =>
            rw [ofItem, itemDefect?, if_pos hpath, if_pos hpath, h]
            simp [Except.mapError, bind, Except.bind]
      · rw [ofItem, itemDefect?, if_neg hpath, if_neg hpath]
        simp [throw, throwThe, MonadExceptOf.throw]
  | useItem => simp [ofItem, itemDefect?, pure, Except.pure]
  | _ => simp [ofItem, itemDefect?, throw, throwThe, MonadExceptOf.throw]

/-- An item is loaded exactly if it stands for something, and then as what it stands for. -/
theorem ofItem_eq_ok {i : Item} {ds : List Declaration} : ofItem i = .ok ds ↔ StandsFor i ds := by
  constructor
  · intro h
    cases i with
    | struct d =>
        obtain ⟨hdefect, rfl⟩ := Except.elim_ok_iff.1 (ofItem_struct d ▸ h)
        rw [itemDefect?] at hdefect
        split at hdefect
        · cases hdefect
        · next hgeneric =>
          exact .record d (Bool.eq_false_iff.2 hgeneric) (attrsDefect?_eq_none.1 hdefect)
    | enum d =>
        obtain ⟨hdefect, rfl⟩ := Except.elim_ok_iff.1 (ofItem_enum d ▸ h)
        exact .variant d (attrsDefect?_eq_none.1 hdefect)
    | useItem =>
        cases h
        exact .nothing
    | invocation path content =>
        by_cases hpath : path.lastName? = some "bitflags"
        · cases hcontent : parseFlags content with
          | ok entries =>
              rw [ofItem_flags hpath hcontent] at h
              obtain ⟨hdefect, rfl⟩ := Except.elim_ok_iff.1 h
              rw [itemDefect?, if_pos hpath, hcontent] at hdefect
              refine .flagSets path content entries hpath (parseFlags_eq_ok.1 hcontent) ?_
              intro e he
              exact attrsDefect?_eq_none.1 (List.findSome?_eq_none_iff.1 hdefect e he)
          | error f =>
              rw [ofItem, if_pos hpath, hcontent] at h
              cases h
        · rw [ofItem, if_neg hpath] at h
          cases h
    | _ => cases h
  · intro h
    cases h with
    | record d hgeneric hattrs =>
        rw [ofItem_struct, itemDefect?, hgeneric, attrsDefect?_eq_none.2 hattrs]
        rfl
    | variant d hattrs =>
        rw [ofItem_enum, itemDefect?, attrsDefect?_eq_none.2 hattrs]
        rfl
    | flagSets path content entries hpath hcontent hattrs =>
        have hcontent := parseFlags_eq_ok.2 hcontent
        have hdefect : entries.findSome? (fun e => attrsDefect? e.name e.attrs) = none :=
          List.findSome?_eq_none_iff.2 fun e he => attrsDefect?_eq_none.2 (hattrs e he)
        rw [ofItem_flags hpath hcontent, itemDefect?, if_pos hpath, hcontent]
        dsimp only
        rw [hdefect]
        rfl
    | nothing => rfl

/-! ## Whole texts -/

/-- The items stand for these declarations, each for those at its place. -/
def StandFor (items : List Item) (ds : List Declaration) : Prop :=
  ∃ parts, List.Forall₂ StandsFor items parts ∧ parts.flatten = ds

/-- The first item that stands for nothing has this defect. -/
def FirstDefect (items : List Item) (e : Defect) : Prop :=
  ∃ before i after, items = before ++ i :: after ∧ (∀ j ∈ before, ∃ ds, StandsFor j ds) ∧
    itemDefect? i = some e

/-- This declaration is the first one whose name was declared before. -/
def FirstRepeated (ds : List Declaration) (d : Declaration) : Prop :=
  ∃ before after, ds = before ++ d :: after ∧ (before.map Declaration.name).Nodup ∧
    d.name ∈ before.map Declaration.name

theorem ofItems_eq_ok {items : List Item} {ds : List Declaration} :
    ofItems items = .ok ds ↔ StandFor items ds := by
  simp only [ofItems, Except.bind_ok_iff, Except.pure_ok_iff, Except.mapM_eq_ok, ofItem_eq_ok,
    StandFor]

theorem ofItems_eq_error {items : List Item} {e : Defect} :
    ofItems items = .error e ↔ FirstDefect items e := by
  simp only [ofItems, Except.bind_error_iff, Except.pure_not_error, and_false, exists_false,
    or_false, Except.mapM_eq_error, ofItem_eq_ok, ofItem_eq_error, FirstDefect]

/-- The first repeated name is the earliest one that is among those before it. -/
theorem firstRepeated?_eq_some {seen names : List String} {n : String} :
    firstRepeated? seen names = some n ↔ ∃ before after, names = before ++ n :: after ∧
      before.Nodup ∧ (∀ m ∈ before, m ∉ seen) ∧ (n ∈ seen ∨ n ∈ before) := by
  induction names generalizing seen with
  | nil => simp [firstRepeated?]
  | cons k names ih =>
      rw [firstRepeated?]
      split
      · next hk =>
        constructor
        · rintro ⟨⟩
          exact ⟨[], names, rfl, .nil, List.forall_mem_nil _, .inl hk⟩
        · rintro ⟨_ | ⟨m, before⟩, after, hnames, -, hbefore, -⟩
          · cases hnames
            rfl
          · cases hnames
            exact absurd hk (hbefore k List.mem_cons_self)
      · next hk =>
        rw [ih]
        constructor
        · rintro ⟨before, after, rfl, hnodup, hbefore, hn⟩
          refine ⟨k :: before, after, rfl, List.nodup_cons.2 ⟨?_, hnodup⟩, ?_, ?_⟩
          · intro hmem
            exact hbefore k hmem List.mem_cons_self
          · refine List.forall_mem_cons.2 ⟨hk, fun m hm hseen => ?_⟩
            exact hbefore m hm (List.mem_cons_of_mem _ hseen)
          · simpa [or_assoc, or_comm, or_left_comm] using hn
        · rintro ⟨_ | ⟨m, before⟩, after, hnames, hnodup, hbefore, hn⟩
          · cases hnames
            exact absurd (hn.resolve_right List.not_mem_nil) hk
          · cases hnames
            obtain ⟨hm, hnodup⟩ := List.nodup_cons.1 hnodup
            refine ⟨before, after, rfl, hnodup, fun x hx hseen => ?_, ?_⟩
            · rcases List.mem_cons.1 hseen with rfl | hseen
              · exact hm hx
              · exact hbefore x (List.mem_cons_of_mem _ hx) hseen
            · simpa [or_assoc, or_comm, or_left_comm] using hn

theorem checkUnique_eq_error {ds : List Declaration} {e : Defect} :
    checkUnique ds = .error e ↔ ∃ d, FirstRepeated ds d ∧ e = .duplicate d.name := by
  have found : checkUnique ds = .error e ↔
      ∃ n, firstRepeated? [] (ds.map Declaration.name) = some n ∧ e = .duplicate n := by
    rw [checkUnique]
    cases firstRepeated? [] (ds.map Declaration.name) with
    | none => simp
    | some n => simp [eq_comm]
  rw [found]
  simp only [firstRepeated?_eq_some, List.not_mem_nil, not_false_eq_true, implies_true, true_and,
    false_or, List.map_eq_append_iff, List.map_eq_cons_iff]
  constructor
  · rintro ⟨_, ⟨_, _, ⟨before, _, rfl, rfl, d, after, rfl, rfl, rfl⟩, hnodup, hd⟩, rfl⟩
    exact ⟨d, ⟨before, after, rfl, hnodup, hd⟩, rfl⟩
  · rintro ⟨d, ⟨before, after, rfl, hnodup, hd⟩, rfl⟩
    exact ⟨d.name, ⟨_, _, ⟨before, _, rfl, rfl, d, after, rfl, rfl, rfl⟩, hnodup, hd⟩, rfl⟩

theorem ofSource_eq {text : String} {items : List Item} (h : parseFile text = .ok items) :
    ofSource text = (do let ds ← ofItems items; checkUnique ds; return ds) := by
  rw [ofSource, h]
  rfl

theorem ofSource_eq_ok {text : String} {items : List Item} {ds : List Declaration}
    (h : parseFile text = .ok items) :
    ofSource text = .ok ds ↔ StandFor items ds ∧ (ds.map Declaration.name).Nodup := by
  simp only [ofSource_eq h, Except.bind_ok_iff, Except.pure_ok_iff, ofItems_eq_ok]
  constructor
  · rintro ⟨_, hds, _, hunique, rfl⟩
    exact ⟨hds, checkUnique_eq_ok.1 hunique⟩
  · rintro ⟨hds, hnodup⟩
    exact ⟨ds, hds, (), checkUnique_eq_ok.2 hnodup, rfl⟩

theorem ofSource_eq_error {text : String} {items : List Item} {e : Defect}
    (h : parseFile text = .ok items) :
    ofSource text = .error e ↔ FirstDefect items e ∨
      ∃ ds d, StandFor items ds ∧ FirstRepeated ds d ∧ e = .duplicate d.name := by
  simp only [ofSource_eq h, Except.bind_error_iff, Except.pure_not_error, ofItems_eq_error,
    ofItems_eq_ok, checkUnique_eq_error, and_false, exists_false, or_false]
  refine or_congr_right ?_
  constructor
  · rintro ⟨ds, hds, d, hd, he⟩
    exact ⟨ds, d, hds, hd, he⟩
  · rintro ⟨ds, d, hds, hd, he⟩
    exact ⟨ds, hds, d, hd, he⟩

/-- A file with these items is a schema exactly if each item stands for something and all names
differ, and the schema consists of what the items stand for. If some item stands for nothing, the
error is the defect of the first such item; else it is the first name that is repeated. -/
theorem source_language {text : String} {items : List Item} (h : parseFile text = .ok items) :
    (∀ ds, ofSource text = .ok ds ↔ StandFor items ds ∧ (ds.map Declaration.name).Nodup) ∧
      ∀ e, ofSource text = .error e ↔ FirstDefect items e ∨
        ∃ ds d, StandFor items ds ∧ FirstRepeated ds d ∧ e = .duplicate d.name :=
  ⟨fun _ => ofSource_eq_ok h, fun _ => ofSource_eq_error h⟩

/-- Three items that stand for two declarations; and four of which the third is refused, although a
name is repeated in front of it and the one behind it has a defect of its own. -/
theorem function_behind_repeated_name :
    (∃ items, parseFile "use a; #[m] struct A(u8, #[node_id] u8); enum B \x7b P \x7d" = .ok items ∧
        StandFor items [.record ⟨"A", .ofList ["m"], [⟨"0", ∅⟩, ⟨"1", .ofList [identifierField]⟩]⟩,
          .variant ⟨"B", ∅, ["P"]⟩]) ∧
      ∃ items, parseFile "struct A; struct A; fn f() \x7b\x7d struct B<T>(T);" = .ok items ∧
        FirstDefect items (.unsupported "fn" "f") := by
  constructor
  · obtain ⟨items, parsed⟩ : ∃ items,
        parseFile "use a; #[m] struct A(u8, #[node_id] u8); enum B \x7b P \x7d" = .ok items :=
      Except.isOk_iff.1 (by decide +kernel)
    exact ⟨items, parsed, (((source_language parsed).1 _).1 (by decide +kernel)).1⟩
  · obtain ⟨items, parsed⟩ : ∃ items,
        parseFile "struct A; struct A; fn f() \x7b\x7d struct B<T>(T);" = .ok items :=
      Except.isOk_iff.1 (by decide +kernel)
    have refused := ((source_language parsed).2 (.unsupported "fn" "f")).1 (by decide +kernel)
    refine ⟨items, parsed, refused.resolve_right ?_⟩
    rintro ⟨ds, d, -, -, he⟩
    cases he

end NodeIdGen.Schema
