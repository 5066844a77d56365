import Mathlib.Logic.Relation
import NodeIdGen.Proofs.Generate.Parts

/-!
# The rules of the node id, and what they do not depend on

`Resolves` are the rules by which a record's node id is found: the marker that suppresses it, the
number of marked fields, and the first field that is called `id`. `nodeId?_eq_iff` says that the
function follows them.

Of a record, the rules look at its name, at whether it is suppressed, and at its *candidates*: the
names of the marked fields and of the fields that are called `id`, in their order. An `Edit` keeps
all of it, so no sequence of edits changes what is found. A `Rearrangement` may also change the
order of the fields, and keeps the candidates but for their order. That matters in one case alone,
when no field is marked and several are called `id`; then each of them is found in some order.
-/

namespace NodeIdGen.Generate

open NodeIdGen.Schema Relation

/-! ## The rules -/

theorem isMarked_iff {f : Field} : isMarked f = true ↔ identifierField ∈ f.attrs :=
  AttrSet.contains_iff

theorem isCalledId_iff {f : Field} : isCalledId f = true ↔ f.name = "id" ∨ f.name = "r#id" := by
  simp [isCalledId]

theorem not_isCalledId_iff {f : Field} :
    isCalledId f = false ↔ f.name ≠ "id" ∧ f.name ≠ "r#id" := by
  simp [isCalledId]

/-- The rules by which the node id of a record is found. -/
inductive Resolves (r : Record) : Except Error (Option String) → Prop
  | suppressed (hrecord : noIdentifier ∈ r.attrs) : Resolves r (.ok none)
  | marked {f : Field} (hrecord : noIdentifier ∉ r.attrs) (hcount : markedCount r = 1)
      (hf : f ∈ r.fields) (hmark : identifierField ∈ f.attrs) : Resolves r (.ok (some f.name))
  | ambiguous (hrecord : noIdentifier ∉ r.attrs) (hcount : 2 ≤ markedCount r) :
      Resolves r (.error (.ambiguousIdentifier r.name (markedCount r)))
  | called {earlier later : List Field} {f : Field} (hrecord : noIdentifier ∉ r.attrs)
      (hcount : markedCount r = 0) (hfields : r.fields = earlier ++ f :: later)
      (hname : f.name = "id" ∨ f.name = "r#id")
      (hearlier : ∀ g ∈ earlier, g.name ≠ "id" ∧ g.name ≠ "r#id") : Resolves r (.ok (some f.name))
  | nothing (hrecord : noIdentifier ∉ r.attrs) (hcount : markedCount r = 0)
      (hnames : ∀ f ∈ r.fields, f.name ≠ "id" ∧ f.name ≠ "r#id") : Resolves r (.ok none)

theorem markedCount_eq (r : Record) : markedCount r = (r.fields.filter isMarked).length :=
  List.countP_eq_length_filter

/-- Some rule applies to each record. -/
theorem resolves_nodeId? (r : Record) : Resolves r (nodeId? r) := by
  have count := markedCount_eq r
  unfold nodeId?
  split
  · next hrecord => exact .suppressed (AttrSet.contains_iff.1 hrecord)
  · next hrecord =>
    rw [AttrSet.contains_iff] at hrecord
    match hmarked : r.fields.filter isMarked with
    | [] =>
      rw [hmarked] at count
      cases hfound : r.fields.find? isCalledId with
      | none =>
          refine .nothing hrecord count fun f hf => not_isCalledId_iff.1 ?_
          exact Bool.eq_false_iff.2 (List.find?_eq_none.1 hfound f hf)
      | some f =>
          obtain ⟨hname, earlier, later, hfields, hearlier⟩ :=
            List.find?_eq_some_iff_append.1 hfound
          refine .called hrecord count hfields (isCalledId_iff.1 hname) fun g hg => ?_
          exact not_isCalledId_iff.1 (Bool.not_eq_true' _ ▸ hearlier g hg)
    | [f] =>
      rw [hmarked] at count
      have hf : f ∈ r.fields.filter isMarked := by
        rw [hmarked]
        exact List.mem_cons_self
      obtain ⟨hmem, hmark⟩ := List.mem_filter.1 hf
      exact .marked hrecord count hmem (isMarked_iff.1 hmark)
    | f :: g :: fs =>
      rw [hmarked] at count
      have several : 2 ≤ markedCount r := by
        rw [count]
        exact Nat.le_add_left 2 fs.length
      change Resolves r (.error (.ambiguousIdentifier r.name (f :: g :: fs).length))
      rw [← count]
      exact .ambiguous hrecord several

theorem nodeId?_of_count_zero {r : Record} (hrecord : noIdentifier ∉ r.attrs)
    (hcount : markedCount r = 0) :
    nodeId? r = .ok ((r.fields.find? isCalledId).map Field.name) := by
  have hmarked : r.fields.filter isMarked = [] := by
    rw [← List.length_eq_zero_iff, ← markedCount_eq, hcount]
  rw [nodeId?, if_neg (mt AttrSet.contains_iff.1 hrecord), hmarked]

/-- No rule says anything but what the function finds. -/
theorem Resolves.nodeId?_eq {r : Record} {x : Except Error (Option String)} (h : Resolves r x) :
    nodeId? r = x := by
  cases h with
  | suppressed hrecord => exact if_pos (AttrSet.contains_iff.2 hrecord)
  | @marked f hrecord hcount hf hmark =>
      obtain ⟨g, hg⟩ := List.length_eq_one_iff.1 (markedCount_eq r ▸ hcount)
      have hfg : f ∈ r.fields.filter isMarked := List.mem_filter.2 ⟨hf, isMarked_iff.2 hmark⟩
      rw [hg, List.mem_singleton] at hfg
      rw [nodeId?, if_neg (mt AttrSet.contains_iff.1 hrecord), hg, hfg]
  | ambiguous hrecord hcount =>
      exact nodeId?_eq_error.2 (ambiguity?_eq_some.2 ⟨⟨hrecord, hcount⟩, rfl⟩)
  | @called earlier later f hrecord hcount hfields hname hearlier =>
      have hfound : r.fields.find? isCalledId = some f := by
        refine List.find?_eq_some_iff_append.2 ⟨isCalledId_iff.2 hname, earlier, later, hfields, ?_⟩
        intro g hg
        rw [not_isCalledId_iff.2 (hearlier g hg), Bool.not_false]
      rw [nodeId?_of_count_zero hrecord hcount, hfound, Option.map_some]
  | nothing hrecord hcount hnames =>
      have hfound : r.fields.find? isCalledId = none := by
        refine List.find?_eq_none.2 fun f hf => ?_
        rw [not_isCalledId_iff.2 (hnames f hf)]
        exact Bool.false_ne_true
      rw [nodeId?_of_count_zero hrecord hcount, hfound, Option.map_none]

theorem nodeId?_eq_iff {r : Record} {x : Except Error (Option String)} :
    nodeId? r = x ↔ Resolves r x :=
  ⟨fun h => h ▸ resolves_nodeId? r, Resolves.nodeId?_eq⟩

/-! ## What the rules look at -/

def markedNames (r : Record) : List String :=
  (r.fields.filter isMarked).map Field.name

def calledNames (r : Record) : List String :=
  (r.fields.filter isCalledId).map Field.name

theorem length_markedNames (r : Record) : (markedNames r).length = markedCount r := by
  rw [markedNames, List.length_map, markedCount_eq]

theorem length_calledNames (r : Record) :
    (calledNames r).length = r.fields.countP isCalledId := by
  rw [calledNames, List.length_map, List.countP_eq_length_filter]

theorem nodeId?_eq_of_candidates (r : Record) :
    nodeId? r = if noIdentifier ∈ r.attrs then .ok none else
      match markedNames r with
      | [] => .ok (calledNames r).head?
      | [n] => .ok (some n)
      | ns => .error (.ambiguousIdentifier r.name ns.length) := by
  have called : (calledNames r).head? = (r.fields.find? isCalledId).map Field.name := by
    rw [calledNames, List.head?_map, List.head?_filter]
  rw [nodeId?, called, markedNames]
  simp only [AttrSet.contains_iff]
  rcases r.fields.filter isMarked with _ | ⟨f, _ | ⟨g, fs⟩⟩
  · rfl
  · rfl
  · simp

/-- The two records differ in nothing that the rules look at. -/
structure SameCandidates (r q : Record) : Prop where
  name : q.name = r.name
  suppressed : noIdentifier ∈ q.attrs ↔ noIdentifier ∈ r.attrs
  marked : markedNames q = markedNames r
  called : calledNames q = calledNames r

/-- The two records differ in nothing that the rules look at but the order of the fields. -/
structure LikeCandidates (r q : Record) : Prop where
  name : q.name = r.name
  suppressed : noIdentifier ∈ q.attrs ↔ noIdentifier ∈ r.attrs
  marked : (markedNames q).Perm (markedNames r)
  called : (calledNames q).Perm (calledNames r)

namespace SameCandidates

variable {r q p : Record}

theorem refl (r : Record) : SameCandidates r r :=
  ⟨rfl, .rfl, rfl, rfl⟩

theorem symm (h : SameCandidates r q) : SameCandidates q r :=
  ⟨h.name.symm, h.suppressed.symm, h.marked.symm, h.called.symm⟩

theorem trans (h : SameCandidates r q) (h' : SameCandidates q p) : SameCandidates r p :=
  ⟨h'.name.trans h.name, h'.suppressed.trans h.suppressed, h'.marked.trans h.marked,
    h'.called.trans h.called⟩

theorem like (h : SameCandidates r q) : LikeCandidates r q :=
  ⟨h.name, h.suppressed, .of_eq h.marked, .of_eq h.called⟩

theorem nodeId?_eq (h : SameCandidates r q) : nodeId? q = nodeId? r := by
  rw [nodeId?_eq_of_candidates, nodeId?_eq_of_candidates, h.name, h.marked, h.called]
  simp only [h.suppressed]

end SameCandidates

/-- In another order a list starts as before, unless there are several it may start with. -/
theorem head?_of_perm {ns ms : List String} (h : ms.Perm ns) :
    ms.head? = ns.head? ∨ 2 ≤ ns.length ∧ ∃ n ∈ ns, ms.head? = some n := by
  rcases ns with _ | ⟨n, _ | ⟨n', ns⟩⟩
  · exact .inl (congrArg List.head? (List.perm_nil.1 h))
  · exact .inl (congrArg List.head? (List.perm_singleton.1 h))
  · rcases ms with _ | ⟨m, ms⟩
    · exact absurd h (List.not_perm_nil_cons n (n' :: ns))
    · exact .inr ⟨Nat.le_add_left 2 ns.length, m, h.mem_iff.1 List.mem_cons_self, rfl⟩

namespace LikeCandidates

variable {r q p : Record}

theorem refl (r : Record) : LikeCandidates r r :=
  (SameCandidates.refl r).like

theorem trans (h : LikeCandidates r q) (h' : LikeCandidates q p) : LikeCandidates r p :=
  ⟨h'.name.trans h.name, h'.suppressed.trans h.suppressed, h'.marked.trans h.marked,
    h'.called.trans h.called⟩

/-- The order of the candidates matters only if none is marked and several are called `id`. -/
theorem nodeId?_eq (h : LikeCandidates r q) :
    nodeId? q = nodeId? r ∨ noIdentifier ∉ r.attrs ∧ markedCount r = 0 ∧
      2 ≤ (calledNames r).length ∧ ∃ n ∈ calledNames r, nodeId? q = .ok (some n) := by
  rw [nodeId?_eq_of_candidates q, nodeId?_eq_of_candidates r, h.name]
  simp only [h.suppressed]
  by_cases hrecord : noIdentifier ∈ r.attrs
  · rw [if_pos hrecord, if_pos hrecord]
    exact .inl rfl
  rw [if_neg hrecord, if_neg hrecord, ← length_markedNames]
  have marked := h.marked
  rcases hr : markedNames r with _ | ⟨n, _ | ⟨m, ns⟩⟩ <;> rw [hr] at marked
  · rw [List.perm_nil.1 marked]
    rcases head?_of_perm h.called with hsame | ⟨hseveral, n, hn, hfound⟩
    · exact .inl (congrArg Except.ok hsame)
    · exact .inr ⟨hrecord, rfl, hseveral, n, hn, congrArg Except.ok hfound⟩
  · rw [List.perm_singleton.1 marked]
    exact .inl rfl
  · have several : (markedNames q).length = (n :: m :: ns).length := marked.length_eq
    rcases hq : markedNames q with _ | ⟨n', _ | ⟨m', ns'⟩⟩ <;> rw [hq] at several
    · cases several
    · cases several
    · exact .inl (congrArg (fun k => Except.error (Error.ambiguousIdentifier r.name k)) several)

end LikeCandidates

/-! ## Edits -/

/-- The ways to change a record that are of no concern to the node id: the markers that the rules do
not look for, and the fields that are no candidates. -/
inductive Edit (r : Record) : Record → Prop
  | recordMarkers {attrs : AttrSet} (hattrs : noIdentifier ∈ attrs ↔ noIdentifier ∈ r.attrs) :
      Edit r { r with attrs }
  | fieldMarkers {earlier later : List Field} {f : Field} {attrs : AttrSet}
      (hfields : r.fields = earlier ++ f :: later)
      (hattrs : identifierField ∈ attrs ↔ identifierField ∈ f.attrs) :
      Edit r { r with fields := earlier ++ { f with attrs } :: later }
  | insertField {earlier later : List Field} {f : Field} (hfields : r.fields = earlier ++ later)
      (hmark : identifierField ∉ f.attrs) (hname : f.name ≠ "id" ∧ f.name ≠ "r#id") :
      Edit r { r with fields := earlier ++ f :: later }
  | removeField {earlier later : List Field} {f : Field}
      (hfields : r.fields = earlier ++ f :: later)
      (hmark : identifierField ∉ f.attrs) (hname : f.name ≠ "id" ∧ f.name ≠ "r#id") :
      Edit r { r with fields := earlier ++ later }

/-- The ways to change a record, the order of its fields among them. -/
inductive Rearrangement (r : Record) : Record → Prop
  | edit {q : Record} (h : Edit r q) : Rearrangement r q
  | order {fields : List Field} (h : fields.Perm r.fields) : Rearrangement r { r with fields }

/-- A field that is no candidate may stand anywhere. -/
theorem sameCandidates_insert {r : Record} {earlier later : List Field} {f : Field}
    (hfields : r.fields = earlier ++ later) (hmark : identifierField ∉ f.attrs)
    (hname : f.name ≠ "id" ∧ f.name ≠ "r#id") :
    SameCandidates r { r with fields := earlier ++ f :: later } := by
  have unmarked : ¬ isMarked f = true := mt isMarked_iff.1 hmark
  have uncalled : ¬ isCalledId f = true := by
    rw [not_isCalledId_iff.2 hname]
    exact Bool.false_ne_true
  refine ⟨rfl, .rfl, ?_, ?_⟩
  · rw [markedNames, markedNames, hfields, List.filter_append, List.filter_append,
      List.filter_cons_of_neg unmarked]
  · rw [calledNames, calledNames, hfields, List.filter_append, List.filter_append,
      List.filter_cons_of_neg uncalled]

theorem Edit.sameCandidates {r q : Record} (h : Edit r q) : SameCandidates r q := by
  cases h with
  | recordMarkers hattrs => exact ⟨rfl, hattrs, rfl, rfl⟩
  | @fieldMarkers earlier later f attrs hfields hattrs =>
      have marked : isMarked { f with attrs } = isMarked f := by
        rw [Bool.eq_iff_iff, isMarked_iff, isMarked_iff]
        exact hattrs
      have called : isCalledId { f with attrs } = isCalledId f := rfl
      refine ⟨rfl, .rfl, ?_, ?_⟩
      · rw [markedNames, markedNames, hfields, List.filter_append, List.filter_append,
          List.filter_cons, List.filter_cons, marked]
        cases isMarked f <;> simp
      · rw [calledNames, calledNames, hfields, List.filter_append, List.filter_append,
          List.filter_cons, List.filter_cons, called]
        cases isCalledId f <;> simp
  | insertField hfields hmark hname => exact sameCandidates_insert hfields hmark hname
  | @removeField earlier later f hfields hmark hname =>
      -- the record is what the insertion makes of the record without the field
      have restored := (sameCandidates_insert (r := { r with fields := earlier ++ later }) rfl
        hmark hname).symm
      rw [← hfields] at restored
      exact restored

theorem Rearrangement.likeCandidates {r q : Record} (h : Rearrangement r q) :
    LikeCandidates r q := by
  cases h with
  | edit h => exact h.sameCandidates.like
  | order h => exact ⟨rfl, .rfl, (h.filter _).map _, (h.filter _).map _⟩

/-- What any sequence of edits keeps. -/
theorem sameCandidates_of_edits {r q : Record} (h : ReflTransGen Edit r q) :
    SameCandidates r q := by
  induction h with
  | refl => exact .refl r
  | tail _ hlast ih => exact ih.trans hlast.sameCandidates

/-- What any rearrangement keeps. -/
theorem likeCandidates_of_rearrangements {r q : Record} (h : ReflTransGen Rearrangement r q) :
    LikeCandidates r q := by
  induction h with
  | refl => exact .refl r
  | tail _ hlast ih => exact ih.trans hlast.likeCandidates

/-- Without a marker, a field called `id` is found where it stands in front. -/
theorem exists_order_of_called {r : Record} (hrecord : noIdentifier ∉ r.attrs)
    (hcount : markedCount r = 0) {f : Field} (hf : f ∈ r.fields) (hname : isCalledId f = true) :
    ∃ fields, fields.Perm r.fields ∧ nodeId? { r with fields } = .ok (some f.name) := by
  obtain ⟨earlier, later, hfields⟩ := List.append_of_mem hf
  have hperm : (f :: (earlier ++ later)).Perm r.fields := hfields ▸ List.perm_middle.symm
  have hfront : markedCount { r with fields := f :: (earlier ++ later) } = 0 :=
    (hperm.countP_eq isMarked).trans hcount
  refine ⟨f :: (earlier ++ later), hperm, ?_⟩
  have hfound := nodeId?_of_count_zero (r := { r with fields := f :: (earlier ++ later) }) hrecord
    hfront
  rw [hfound, List.find?_cons_of_pos hname, Option.map_some]

/-- The node id is found by the rules, no edit of no concern to them changes it, and the order of
the fields is of concern only where no field is marked and several are called `id`. There one of
these is found in each order, and each of them in some order. -/
theorem nodeId?_rules_and_edits (r : Record) :
    (∀ x, nodeId? r = x ↔ Resolves r x) ∧
      (∀ q, ReflTransGen Edit r q → nodeId? q = nodeId? r) ∧
      (∀ q, ReflTransGen Rearrangement r q → nodeId? q = nodeId? r ∨
        noIdentifier ∉ r.attrs ∧ markedCount r = 0 ∧ 2 ≤ r.fields.countP isCalledId ∧
          ∃ f ∈ r.fields, isCalledId f = true ∧ nodeId? q = .ok (some f.name)) ∧
      (noIdentifier ∉ r.attrs → markedCount r = 0 → ∀ f ∈ r.fields, isCalledId f = true →
        ∃ fields, fields.Perm r.fields ∧ nodeId? { r with fields } = .ok (some f.name)) := by
  refine ⟨fun x => nodeId?_eq_iff, ?_, ?_, ?_⟩
  · intro q hq
    exact (sameCandidates_of_edits hq).nodeId?_eq
  · intro q hq
    rcases (likeCandidates_of_rearrangements hq).nodeId?_eq with
      hsame | ⟨hrecord, hcount, hseveral, n, hn, hfound⟩
    · exact .inl hsame
    · obtain ⟨f, hf, rfl⟩ := List.mem_map.1 hn
      obtain ⟨hmem, hname⟩ := List.mem_filter.1 hf
      exact .inr ⟨hrecord, hcount, length_calledNames r ▸ hseveral, f, hmem, hname, hfound⟩
  · intro hrecord hcount f hf hname
    exact exists_order_of_called hrecord hcount hf hname

/-- A record with two fields called `id`. -/
def twiceCalled : Record :=
  ⟨"Edge", ∅, [⟨"r#id", .ofList ["doc"]⟩, ⟨"id", ∅⟩]⟩

/-- The record with another marker and a field in front. -/
def twiceCalledEdited : Record :=
  ⟨"Edge", .ofList ["serde"], [⟨"weight", ∅⟩, ⟨"r#id", .ofList ["doc"]⟩, ⟨"id", ∅⟩]⟩

/-- The first of the fields called `id` remains the node id under an edit, and gives way to the
other one where that is put in front. -/
theorem nodeId?_twiceCalled :
    nodeId? twiceCalled = .ok (some "r#id") ∧
      nodeId? twiceCalledEdited = nodeId? twiceCalled ∧
      (∃ f ∈ twiceCalled.fields, isCalledId f = true ∧
        nodeId? { twiceCalled with fields := twiceCalled.fields.reverse } = .ok (some f.name)) ∧
      ∃ fields, fields.Perm twiceCalled.fields ∧
        nodeId? { twiceCalled with fields } = .ok (some "id") := by
  obtain ⟨hrules, hedits, hrearranged, horder⟩ := nodeId?_rules_and_edits twiceCalled
  have first : Resolves twiceCalled (.ok (some "r#id")) :=
    @Resolves.called twiceCalled [] [⟨"id", ∅⟩] ⟨"r#id", .ofList ["doc"]⟩ (by decide) (by decide)
      rfl (.inr rfl) (by decide)
  have markers : Edit twiceCalled { twiceCalled with attrs := .ofList ["serde"] } :=
    .recordMarkers (by decide)
  have field : Edit { twiceCalled with attrs := .ofList ["serde"] } twiceCalledEdited :=
    @Edit.insertField _ [] twiceCalled.fields ⟨"weight", ∅⟩ rfl (by decide) (by decide)
  have reversed := hrearranged _ (.single (.order (List.reverse_perm twiceCalled.fields)))
  refine ⟨(hrules _).2 first, hedits _ ((ReflTransGen.single markers).tail field), ?_,
    horder (by decide) (by decide) ⟨"id", ∅⟩ (by decide) (by decide)⟩
  rcases reversed with hsame | ⟨-, -, -, hother⟩
  · exact ⟨⟨"r#id", .ofList ["doc"]⟩, by decide, by decide, hsame.trans ((hrules _).2 first)⟩
  · exact hother

end NodeIdGen.Generate
