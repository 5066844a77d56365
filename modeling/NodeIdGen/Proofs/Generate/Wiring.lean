import NodeIdGen.Proofs.Generate.Parts
import NodeIdGen.Proofs.Schema.Language

/-!
# What of a source reaches the output

Of a structure only its `Wiring` matters: its name, the names of its fields, which of the fields
have the bare attribute `node_id`, and whether the structure has the bare attribute `no_node_id`.
Two sources whose structures agree in this, one by one, give the same document, whatever else stands
in them: `report_determined_by_wiring`.

Every other attribute becomes a marker too, named by its path. That it is never one of the two
markers with a meaning is a fact about words: both markers have a hyphen, and no word has one.
-/

namespace NodeIdGen.Generate

open NodeIdGen.Schema NodeIdGen.Syntax

/-! ## The wiring of a record -/

/-- What decides about the node id of a record: its name, whether it is marked to have none, and the
names of its fields, each with whether the field is marked. -/
structure Wiring where
  name : String
  suppressed : Bool
  fields : List (String × Bool)
  deriving DecidableEq

def Wiring.ofRecord (r : Record) : Wiring :=
  ⟨r.name, r.attrs.contains noIdentifier, r.fields.map fun f => (f.name, isMarked f)⟩

/-- The node id is told by the names of the marked fields and by the names of all fields. -/
theorem nodeId?_eq_of_names (r : Record) :
    nodeId? r = if r.attrs.contains noIdentifier then .ok none else
      match (r.fields.filter isMarked).map Field.name with
      | [] => .ok ((r.fields.map Field.name).find? fun n => n == "id" || n == "r#id")
      | [n] => .ok (some n)
      | ns => .error (.ambiguousIdentifier r.name ns.length) := by
  have called : (r.fields.map Field.name).find? (fun n => n == "id" || n == "r#id") =
      (r.fields.find? isCalledId).map Field.name :=
    List.find?_map
  unfold nodeId?
  rw [called]
  match r.fields.filter isMarked with
  | [] => rfl
  | [f] => rfl
  | f :: g :: fs => simp

namespace Wiring

variable {r q : Record}

theorem nodeId?_congr (h : ofRecord r = ofRecord q) : nodeId? r = nodeId? q := by
  have marked (r : Record) : (r.fields.filter isMarked).map Field.name =
      ((ofRecord r).fields.filter (·.2)).map (·.1) := by
    simp [ofRecord, List.filter_map, Function.comp_def]
  have all (r : Record) : r.fields.map Field.name = (ofRecord r).fields.map (·.1) := by
    simp [ofRecord, Function.comp_def]
  have name : r.name = q.name := congrArg Wiring.name h
  have suppressed : r.attrs.contains noIdentifier = q.attrs.contains noIdentifier :=
    congrArg Wiring.suppressed h
  rw [nodeId?_eq_of_names, nodeId?_eq_of_names, marked, marked, all, all, h, name, suppressed]

theorem ambiguity?_congr (h : ofRecord r = ofRecord q) : ambiguity? r = ambiguity? q := by
  refine Option.ext fun e => ?_
  rw [← nodeId?_eq_error, ← nodeId?_eq_error, nodeId?_congr h]

theorem accessor?_congr (h : ofRecord r = ofRecord q) : accessor? r = accessor? q := by
  have name : r.name = q.name := congrArg Wiring.name h
  rw [accessor?, accessor?, nodeId?_congr h, name]

end Wiring

/-- Two lists of declarations whose records have the same wiring give the same document, the same
accessors and as many records, or stop with the same error. -/
theorem report_congr {ds es : List Declaration}
    (h : (recordsOf ds).map Wiring.ofRecord = (recordsOf es).map Wiring.ofRecord) (ts : String) :
    (report ds ts).map (fun r => (r.document, r.records, r.accessors)) =
      (report es ts).map (fun r => (r.document, r.records, r.accessors)) := by
  -- what is found out about a record is a function of its wiring
  obtain ⟨refusal, hrefusal⟩ : ∃ f, ambiguity? = f ∘ Wiring.ofRecord :=
    (Function.factorsThrough_iff _).1 fun _ _ h => Wiring.ambiguity?_congr h
  obtain ⟨result, hresult⟩ : ∃ f, accessor? = f ∘ Wiring.ofRecord :=
    (Function.factorsThrough_iff _).1 fun _ _ h => Wiring.accessor?_congr h
  have refused : (recordsOf ds).findSome? ambiguity? = (recordsOf es).findSome? ambiguity? := by
    rw [hrefusal, ← List.findSome?_map, ← List.findSome?_map, h]
  have accessors : (recordsOf ds).filterMap accessor? = (recordsOf es).filterMap accessor? := by
    rw [hresult, ← List.filterMap_map, ← List.filterMap_map, h]
  have length : (recordsOf ds).length = (recordsOf es).length := by
    simpa using congrArg List.length h
  rw [report_eq, report_eq, refused, reportOf, reportOf, accessors, length]
  cases (recordsOf es).findSome? ambiguity? <;> rfl

/-! ## The markers of attributes -/

/-- The attributes with a meaning, by name, and the markers that they stand for. -/
def meanings : List (String × String) :=
  [("node_id", identifierField), ("no_node_id", noIdentifier)]

/-- The attribute that is the one name and nothing else. -/
def bareAttribute (name : String) : Attribute :=
  ⟨.ofName name, false⟩

theorem mem_of_mem_intercalate {c : Char} {sep : List Char} {parts : List (List Char)}
    (h : c ∈ sep.intercalate parts) : c ∈ sep ∨ ∃ p ∈ parts, c ∈ p := by
  induction parts with
  | nil => cases h
  | cons p parts ih =>
      cases parts with
      | nil => exact .inr ⟨p, List.mem_cons_self, by simpa using h⟩
      | cons q parts =>
          rw [List.intercalate_cons_cons, List.mem_append, List.mem_append] at h
          rcases h with (h | h) | h
          · exact .inr ⟨p, List.mem_cons_self, h⟩
          · exact .inl h
          · exact (ih h).imp_right fun ⟨x, hx, hc⟩ => ⟨x, List.mem_cons_of_mem _ hx, hc⟩

/-- No word has a hyphen, so the path of an attribute does not read as a marker that has one. -/
theorem text_ne_of_hyphen {p : Path} (hp : ∀ s ∈ p.segments, IsWord s.name) {m : String}
    (hm : '-' ∈ m.toList) : p.text ≠ m := by
  rintro rfl
  rw [Path.text, String.toList_intercalate] at hm
  rcases mem_of_mem_intercalate hm with hsep | ⟨_, hname, hmem⟩
  · exact absurd hsep (by decide)
  · simp only [List.map_map, List.mem_map] at hname
    obtain ⟨s, hs, rfl⟩ := hname
    rcases mem_of_isWord (hp s hs) '-' hmem with h | h <;> cases h

/-- Only the attribute with the meaning stands for a marker with one. -/
theorem markerOf?_eq_some_iff {n m : String} (h : (n, m) ∈ meanings) {a : Attribute}
    (ha : a.Sound IsWord) : markerOf? a = some m ↔ a.path = .ofName n := by
  have doc : ∀ p ∈ meanings, none = some p.2 ↔ Path.ofName "doc" = .ofName p.1 := by decide
  have id : ∀ p ∈ meanings, some identifierField = some p.2 ↔
      Path.ofName "node_id" = .ofName p.1 := by decide
  have noId : ∀ p ∈ meanings, some noIdentifier = some p.2 ↔
      Path.ofName "no_node_id" = .ofName p.1 := by decide
  have two : ∀ p ∈ meanings, p.1 = "node_id" ∨ p.1 = "no_node_id" := by decide
  have hyphens : ∀ p ∈ meanings, '-' ∈ p.2.toList := by decide
  unfold markerOf?
  split
  · next hpath => exact hpath ▸ doc _ h
  · split
    · next hpath => exact hpath ▸ id _ h
    · split
      · next hpath => exact hpath ▸ noId _ h
      · next hid hno =>
        refine iff_of_false (fun hm => ?_) (fun hpath => ?_)
        · exact text_ne_of_hyphen ha (hyphens _ h) (Option.some.inj hm)
        · rcases two _ h with rfl | rfl
          · exact hid hpath
          · exact hno hpath

/-- Attributes without arguments where there may be none have a marker with a meaning exactly if the
bare attribute is among them. -/
theorem mem_markersOf_iff {n m : String} (h : (n, m) ∈ meanings) {attrs : List Attribute}
    (hattrs : ∀ a ∈ attrs, a.Sound IsWord) (hbare : Bare attrs) :
    m ∈ markersOf attrs ↔ bareAttribute n ∈ attrs := by
  have two : ∀ p ∈ meanings, p.1 = "node_id" ∨ p.1 = "no_node_id" := by decide
  rw [markersOf, AttrSet.mem_ofList, List.mem_filterMap]
  constructor
  · rintro ⟨a, ha, hm⟩
    have hpath := (markerOf?_eq_some_iff h (hattrs a ha)).1 hm
    have hpayload : a.payload = false := by
      refine Bool.eq_false_iff.2 fun hpayload => hbare a ha ⟨?_, hpayload⟩
      rcases two _ h with rfl | rfl
      · exact .inl hpath
      · exact .inr hpath
    obtain ⟨path, payload⟩ := a
    obtain rfl : path = .ofName n := hpath
    obtain rfl : payload = false := hpayload
    exact ha
  · intro ha
    exact ⟨_, ha, (markerOf?_eq_some_iff h (hattrs _ ha)).2 rfl⟩

/-! ## The wiring of a structure -/

def Wiring.ofStruct (d : StructDecl) : Wiring :=
  ⟨d.name, bareAttribute "no_node_id" ∈ d.attrs,
    d.fields.mapIdx fun i f => (f.name.getD (toString i), bareAttribute "node_id" ∈ f.attrs)⟩

theorem Wiring.ofRecord_recordOf {d : StructDecl} (hbare : Bare (attrsOf d))
    (hattrs : ∀ a ∈ attrsOf d, a.Sound IsWord) : ofRecord (recordOf d) = ofStruct d := by
  have marked {n m : String} (h : (n, m) ∈ meanings) {attrs : List Attribute}
      (hsub : attrs ⊆ attrsOf d) :
      (markersOf attrs).contains m = decide (bareAttribute n ∈ attrs) := by
    rw [Bool.eq_iff_iff, AttrSet.contains_iff, decide_eq_true_eq]
    exact mem_markersOf_iff h (fun a ha => hattrs a (hsub ha)) fun a ha => hbare a (hsub ha)
  have suppressed : (markersOf d.attrs).contains noIdentifier =
      decide (bareAttribute "no_node_id" ∈ d.attrs) :=
    marked (by decide) (List.subset_append_left _ _)
  have fields : (d.fields.mapIdx fieldOf).map (fun f => (f.name, isMarked f)) =
      d.fields.mapIdx fun i f =>
        (f.name.getD (toString i), decide (bareAttribute "node_id" ∈ f.attrs)) := by
    refine List.ext_getElem (by simp) fun i _ hi => ?_
    rw [List.length_mapIdx] at hi
    rw [List.getElem_map, List.getElem_mapIdx, List.getElem_mapIdx]
    have hsub : d.fields[i].attrs ⊆ attrsOf d := fun a ha =>
      List.mem_append_right _ (List.mem_flatMap.2 ⟨_, List.getElem_mem hi, ha⟩)
    exact congrArg (Prod.mk _) (marked (by decide) hsub)
  exact congr (congrArg (Wiring.mk d.name) suppressed) fields

/-- The structures among the items, in their order. -/
def structsOf (items : List Item) : List StructDecl :=
  items.filterMap fun
    | .struct d => some d
    | _ => none

theorem mem_structsOf {items : List Item} {d : StructDecl} :
    d ∈ structsOf items ↔ .struct d ∈ items := by
  rw [structsOf, List.mem_filterMap]
  constructor
  · rintro ⟨i, hi, hid⟩
    cases i with
    | struct d' => exact Option.some.inj hid ▸ hi
    | _ => cases hid
  · intro hd
    exact ⟨.struct d, hd, rfl⟩

theorem wiring_of_standFor {items : List Item} {ds : List Declaration}
    (hwords : ∀ i ∈ items, i.Whole IsWord) (h : StandFor items ds) :
    (recordsOf ds).map Wiring.ofRecord = (structsOf items).map Wiring.ofStruct := by
  obtain ⟨parts, hparts, rfl⟩ := h
  induction hparts with
  | nil => rfl
  | @cons i part items parts hi _ ih =>
      obtain ⟨hwords, hitems⟩ := List.forall_mem_cons.1 hwords
      rw [List.flatten_cons, recordsOf_append, List.map_append, ih hitems]
      cases hi with
      | record d _ hbare =>
          exact congrArg (· :: _) (Wiring.ofRecord_recordOf hbare hwords.2)
      | variant d _ => rfl
      | flagSets path content entries _ _ _ =>
          have none : recordsOf (entries.map fun e => .flagSet (flagSetOf e)) = [] := by
            simp [recordsOf, List.filterMap_map]
          rw [none]
          rfl
      | nothing => rfl

theorem wiring_of_ofSource {text : String} {items : List Item} {ds : List Declaration}
    (hparse : parseFile text = .ok items) (hload : ofSource text = .ok ds) :
    (recordsOf ds).map Wiring.ofRecord = (structsOf items).map Wiring.ofStruct :=
  wiring_of_standFor (areWords_of_parseFile hparse) ((ofSource_eq_ok hparse).1 hload).1

/-- Two sources whose structures agree, one by one, in their names, in the names of their fields, in
which fields have the bare attribute `node_id` and in whether they have the bare attribute
`no_node_id` themselves, give the same document and the same accessors with every time stamp, or
stop with the same error. -/
theorem report_determined_by_wiring {s t : String} {is js : List Item} {ds es : List Declaration}
    (hs : parseFile s = .ok is) (ht : parseFile t = .ok js) (hds : ofSource s = .ok ds)
    (hes : ofSource t = .ok es)
    (h : (structsOf is).map Wiring.ofStruct = (structsOf js).map Wiring.ofStruct) (ts : String) :
    (report ds ts).map (fun r => (r.document, r.records, r.accessors)) =
      (report es ts).map (fun r => (r.document, r.records, r.accessors)) := by
  refine report_congr ?_ ts
  rw [wiring_of_ofSource hs hds, wiring_of_ofSource ht hes, h]

/-- A structure with a marked field, and one that is marked to have no node id. -/
def plainSource : String :=
  "struct Leaf \x7b #[node_id] key: u8, id: u8 \x7d #[no_node_id] struct Pair(u8, u8);"

/-- The same structures with other types, visibilities and attributes, some of which look like those
with a meaning, and with other items around them. -/
def adornedSource : String :=
  "/// A leaf.\n pub struct Leaf \x7b #[node_id] #[b(c)] #[node_id] pub key: [u8; 2], " ++
    "#[r#node_id] #[::node_id] id: u8 \x7d enum E \x7b A \x7d " ++
    "#[no_node_id] struct Pair(u8, #[no_node_id] u8) where u8: C; " ++
    "bitflags! \x7b struct F: u8 \x7b const X = 1; \x7d \x7d use a;"

theorem adorned_as_plain : ∃ is js ds es, parseFile plainSource = .ok is ∧
    parseFile adornedSource = .ok js ∧ ofSource plainSource = .ok ds ∧
    ofSource adornedSource = .ok es ∧
    (structsOf is).map Wiring.ofStruct = (structsOf js).map Wiring.ofStruct ∧
    (report ds "now").map (fun r => (r.document, r.records, r.accessors)) =
      (report es "now").map (fun r => (r.document, r.records, r.accessors)) := by
  -- each text is parsed once for all that has to be known of it
  have known (text : String) (ws : List Wiring)
      (h : (parseFile text).toOption.map (fun is => ((ofItems is >>= checkUnique).isOk,
        (structsOf is).map Wiring.ofStruct)) = some (true, ws)) :
      ∃ is ds, parseFile text = .ok is ∧ ofSource text = .ok ds ∧
        (structsOf is).map Wiring.ofStruct = ws := by
    obtain ⟨is, his, h⟩ := Option.map_eq_some_iff.1 h
    obtain ⟨hload, hws⟩ := Prod.mk.inj h
    obtain ⟨_, hload⟩ := Except.isOk_iff.1 hload
    obtain ⟨ds, hds, hunique⟩ := Except.bind_ok_iff.1 hload
    have hparse := Except.toOption_eq_some.1 his
    refine ⟨is, ds, hparse, (ofSource_eq_ok hparse).2 ?_, hws⟩
    exact ⟨ofItems_eq_ok.1 hds, checkUnique_eq_ok.1 hunique⟩
  let wiring : List Wiring :=
    [⟨"Leaf", false, [("key", true), ("id", false)]⟩, ⟨"Pair", true, [("0", false), ("1", false)]⟩]
  obtain ⟨is, ds, his, hds, hws⟩ := known plainSource wiring (by decide +kernel)
  obtain ⟨js, es, hjs, hes, hws'⟩ := known adornedSource wiring (by decide +kernel)
  have h := hws.trans hws'.symm
  exact ⟨is, js, ds, es, his, hjs, hds, hes, h, report_determined_by_wiring his hjs hds hes h "now"⟩

end NodeIdGen.Generate
