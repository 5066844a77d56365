import NodeIdGen.Proofs.Schema.StrayKeys

/-!
# All values that a declaration can be given as

Besides an object, a field or a declaration may be given as an array of its parts in order, the last
of which may be left out. `GivenAs` relates a declaration to all values that it can be given as, of
either form and with fields of either form, and a value is decoded to a declaration exactly if the
declaration can be given as that value.

That an object which is decoded has the members it is said to have is shown along the members: what
a member adds to a draft is what the value of its name holds, and a part that is known is not given
again.
-/

namespace NodeIdGen.Schema

open NodeIdGen.Json

variable {α β : Type}

/-! ## Forms -/

/-- A field is given as an object, or as an array with its name and perhaps its markers. -/
inductive Field.GivenAs (f : Field) : Json → Prop
  | object {v : Json} (h : f.WrittenAs v) : f.GivenAs v
  | name (hattrs : f.attrs = ∅) : f.GivenAs (.array [.string f.name])
  | attrs {v : Json} (hattrs : f.attrs.WrittenAs v) : f.GivenAs (.array [.string f.name, v])

/-- What the three kinds of declarations share is given as an object, or as an array with the name,
perhaps the markers and perhaps the parts. -/
inductive PartsGivenAs (name : String) (attrs : AttrSet) (partsName : String)
    (part : α → Json → Prop) (parts : List α) : Json → Prop
  | object {ms : List (String × Json)}
      (hms : MembersWrittenAs name attrs partsName part parts ms) :
      PartsGivenAs name attrs partsName part parts (.object ms)
  | name (hattrs : attrs = ∅) (hparts : parts = []) :
      PartsGivenAs name attrs partsName part parts (.array [.string name])
  | attrs {v : Json} (hattrs : attrs.WrittenAs v) (hparts : parts = []) :
      PartsGivenAs name attrs partsName part parts (.array [.string name, v])
  | parts {v w : Json} (hattrs : attrs.WrittenAs v) (hparts : ListWrittenAs part parts w) :
      PartsGivenAs name attrs partsName part parts (.array [.string name, v, w])

/-- What a declaration is given as, its kind apart. -/
def Declaration.PartsGivenAs : Declaration → Json → Prop
  | .record r => Schema.PartsGivenAs r.name r.attrs "fields" Field.GivenAs r.fields
  | .variant v => Schema.PartsGivenAs v.name v.attrs "variants" TextWrittenAs v.variants
  | .flagSet f => Schema.PartsGivenAs f.name f.attrs "flags" TextWrittenAs f.flags

/-- A declaration is given as an object with its kind among the other members, or as an array with
its kind in front. -/
inductive Declaration.GivenAs (d : Declaration) : Json → Prop
  | object {others ms : List (String × Json)} (hothers : d.PartsGivenAs (.object others))
      (hms : ms.Perm (("kind", .string d.kind.name) :: others)) : d.GivenAs (.object ms)
  | array {items : List Json} (hitems : d.PartsGivenAs (.array items)) :
      d.GivenAs (.array (.string d.kind.name :: items))

/-! ## Lists, sets and leaves -/

theorem asText_ok_iff {v : Json} {s : String} : asText v = .ok s ↔ v = .string s := by
  constructor
  · intro h
    cases v with
    | string t => exact congrArg Json.string (Except.ok.inj h)
    | _ => cases h
  · rintro rfl
    rfl

theorem asItems_ok_iff {decode : Json → Except Fault α} {v : Json} {as : List α} :
    asItems decode v = .ok as ↔ ListWrittenAs (fun a w => decode w = .ok a) as v := by
  constructor
  · intro h
    cases v with
    | array items => exact .array (Except.mapM_eq_ok.1 h).flip
    | _ => cases h
  · exact ListWrittenAs.asItems fun _ _ h => h

/-- Where each part is decoded from the values that it is written as, so is a list of them. -/
theorem asItems_ok_iff_of_part {part : α → Json → Prop} {decode : Json → Except Fault α}
    (hpart : ∀ a v, decode v = .ok a ↔ part a v) {v : Json} {as : List α} :
    asItems decode v = .ok as ↔ ListWrittenAs part as v := by
  have same : (fun a w => decode w = .ok a) = part := by
    funext a w
    exact propext (hpart a w)
  rw [asItems_ok_iff, same]

theorem AttrSet.decode_ok_iff {v : Json} {s : AttrSet} :
    AttrSet.decode v = .ok s ↔ s.WrittenAs v := by
  constructor
  · intro h
    obtain ⟨ms, hms, rfl⟩ := Except.map_ok_iff.1 h
    obtain ⟨hvs⟩ := (asItems_ok_iff_of_part fun _ _ => asText_ok_iff).1 hms
    have strings := List.forall₂_map_left_iff.2 (hvs.imp fun _ _ h => h.symm)
    rw [List.forall₂_eq_eq_eq] at strings
    rw [← strings]
    exact .array fun m => AttrSet.mem_ofList.symm
  · exact AttrSet.WrittenAs.decode

theorem endOfItems_ok_iff {surplus : Surplus} {fields total : Nat} {u : Unit} :
    endOfItems surplus fields total = .ok u ↔ total ≤ fields := by
  unfold endOfItems
  split
  · next h => exact iff_of_true rfl h
  · next h =>
    refine iff_of_false (fun hok => ?_) h
    cases surplus <;> cases hok

/-! ## Members -/

/-- What the members of one name make of a part of a draft: without any it stays as it is, and one
is enough to know it. -/
inductive Gained (name : String) (read : Json → Except Fault β) :
    Option β → Option β → List (String × Json) → Prop
  | kept (o : Option β) : Gained name read o o []
  | stored {v : Json} {b : β} (h : read v = .ok b) : Gained name read none (some b) [(name, v)]

namespace Gained

variable {name : String} {read : Json → Except Fault β} {o : Option β} {b : β}
  {ms : List (String × Json)}

/-- What is known is not given again. -/
theorem eq_of_some (h : Gained name read (some b) o ms) : o = some b ∧ ms = [] := by
  cases h with
  | kept => exact ⟨rfl, rfl⟩

/-- A member that is stored in front of those that keep what it stored. -/
theorem store {v : Json} (hv : read v = .ok b) (h : Gained name read (some b) o ms) :
    Gained name read none o ((name, v) :: ms) := by
  obtain ⟨rfl, rfl⟩ := h.eq_of_some
  exact .stored hv

/-- A part that may be missing, and has no entries then. -/
theorem mayOmit (h : Gained name read none o ms) (empty : β) (noEntries : β → Prop)
    (hempty : noEntries empty) {written : β → Json → Prop}
    (hread : ∀ v b, read v = .ok b → written b v) :
    MayOmit name (noEntries (o.getD empty)) (written (o.getD empty)) ms := by
  cases h with
  | kept => exact .omitted hempty
  | stored hv => exact .given (hread _ _ hv)

end Gained

theorem Gained.name {n : String} {ms : List (String × Json)}
    (h : Gained "name" asText none (some n) ms) : ms = [("name", .string n)] := by
  cases h with
  | stored hv => rw [asText_ok_iff.1 hv]

/-! ## Fields -/

theorem FieldDraft.gained_of_foldlM {d e : FieldDraft} {ms : List (String × Json)}
    (h : ms.foldlM FieldDraft.add d = .ok e) : ∃ ns as, ms.Perm (ns ++ as) ∧
      Gained "name" asText d.name e.name ns ∧ Gained "attrs" AttrSet.decode d.attrs e.attrs as := by
  induction ms generalizing d with
  | nil =>
      cases h
      exact ⟨[], [], .refl _, .kept _, .kept _⟩
  | cons m ms ih =>
      rw [List.foldlM_cons, Except.bind_ok_iff] at h
      obtain ⟨d', hadd, h⟩ := h
      obtain ⟨ns, as, hms, hns, has⟩ := ih h
      cases FieldDraft.add_ok_iff.1 hadd with
      | name hd hv =>
          rw [hd]
          exact ⟨_, as, hms.cons _, hns.store hv, has⟩
      | attrs hd hv =>
          rw [hd]
          exact ⟨ns, _, (hms.cons _).trans List.perm_middle.symm, hns, has.store hv⟩

theorem Field.writtenAs_of_decode {surplus : Surplus} {ms : List (String × Json)} {f : Field}
    (h : Field.decode surplus (.object ms) = .ok f) : f.WrittenAs (.object ms) := by
  obtain ⟨d, hd, h⟩ := Except.bind_ok_iff.1 h
  obtain ⟨ns, as, hms, hns, has⟩ := FieldDraft.gained_of_foldlM hd
  cases hname : d.name with
  | none =>
      rw [hname] at h
      cases h
  | some n =>
      rw [hname] at h hns
      cases h
      obtain rfl := hns.name
      exact .object (has.mayOmit ∅ (· = ∅) rfl fun _ _ => AttrSet.decode_ok_iff.1) hms

theorem Field.decode_ok_iff {surplus : Surplus} {v : Json} {f : Field} :
    Field.decode surplus v = .ok f ↔ f.GivenAs v := by
  constructor
  · intro h
    match v with
    | .object ms => exact .object (writtenAs_of_decode h)
    | .array [] => cases h
    | .array [name] =>
        simp only [Field.decode, Except.bind_ok_iff, asText_ok_iff, endOfItems_ok_iff,
          Except.pure_ok_iff] at h
        obtain ⟨n, rfl, _, rfl, _, -, rfl⟩ := h
        exact .name rfl
    | .array [name, attrs] =>
        simp only [Field.decode, Except.bind_ok_iff, asText_ok_iff, endOfItems_ok_iff,
          Except.pure_ok_iff, AttrSet.decode_ok_iff] at h
        obtain ⟨n, rfl, s, hs, _, -, rfl⟩ := h
        exact .attrs hs
    | .array (name :: attrs :: surplus :: rest) =>
        simp only [Field.decode, Except.bind_ok_iff, endOfItems_ok_iff, List.length_cons] at h
        obtain ⟨_, -, _, -, _, hlen, -⟩ := h
        omega
    | .null | .bool _ | .number _ | .string _ => cases h
  · rintro (h | hattrs | hattrs)
    · exact h.decode surplus
    · simp [Field.decode, asText, endOfItems, ← hattrs]
    · simp [Field.decode, asText, endOfItems, hattrs.decode]

/-! ## Declarations -/

namespace Form

variable {f : Form α}

theorem gained_of_foldlM {d e : Draft α} {ms : List (String × Json)}
    (h : ms.foldlM f.add d = .ok e) : ∃ ns as ps, ms.Perm (ns ++ (as ++ ps)) ∧
      Gained "name" asText d.name e.name ns ∧ Gained "attrs" AttrSet.decode d.attrs e.attrs as ∧
      Gained f.partsName (asItems f.part) d.parts e.parts ps := by
  induction ms generalizing d with
  | nil =>
      cases h
      exact ⟨[], [], [], .refl _, .kept _, .kept _, .kept _⟩
  | cons m ms ih =>
      rw [List.foldlM_cons, Except.bind_ok_iff] at h
      obtain ⟨d', hadd, h⟩ := h
      obtain ⟨ns, as, ps, hms, hns, has, hps⟩ := ih h
      cases add_ok_iff.1 hadd with
      | name hd hv =>
          rw [hd]
          exact ⟨_, as, ps, hms.cons _, hns.store hv, has, hps⟩
      | attrs hd hv =>
          rw [hd]
          exact ⟨ns, _, ps, (hms.cons _).trans List.perm_middle.symm, hns, has.store hv, hps⟩
      | parts _ hd hv =>
          rw [hd]
          refine ⟨ns, as, _, (hms.cons _).trans ?_, hns, has, hps.store hv⟩
          rw [← List.append_assoc, ← List.append_assoc]
          exact List.perm_middle.symm

variable {part : α → Json → Prop} {surplus : Surplus} {name : String} {attrs : AttrSet}
  {parts : List α}

theorem membersWrittenAs_of_decode (hpart : ∀ a v, f.part v = .ok a ↔ part a v)
    {ms : List (String × Json)} (h : f.decode surplus (.object ms) = .ok (name, attrs, parts)) :
    MembersWrittenAs name attrs f.partsName part parts ms := by
  obtain ⟨d, hd, h⟩ := Except.bind_ok_iff.1 h
  obtain ⟨ns, as, ps, hms, hns, has, hps⟩ := gained_of_foldlM hd
  cases hname : d.name with
  | none =>
      rw [hname] at h
      cases h
  | some n =>
      rw [hname] at h hns
      cases h
      obtain rfl := hns.name
      exact .mk (has.mayOmit ∅ (· = ∅) rfl fun _ _ => AttrSet.decode_ok_iff.1)
        (hps.mayOmit [] (· = []) rfl fun _ _ => (asItems_ok_iff_of_part hpart).1) hms

/-- What the kinds of declarations share is decoded from the values that it can be given as. -/
theorem decode_ok_iff (hname : f.partsName ∉ ["name", "attrs"])
    (hpart : ∀ a v, f.part v = .ok a ↔ part a v) {v : Json} :
    f.decode surplus v = .ok (name, attrs, parts) ↔
      PartsGivenAs name attrs f.partsName part parts v := by
  constructor
  · intro h
    match v with
    | .object ms => exact .object (membersWrittenAs_of_decode hpart h)
    | .array [] => cases h
    | .array [first] =>
        simp only [Form.decode, Except.bind_ok_iff, asText_ok_iff, endOfItems_ok_iff,
          Except.pure_ok_iff, Prod.mk.injEq] at h
        obtain ⟨n, rfl, _, rfl, _, rfl, _, -, rfl, rfl, rfl⟩ := h
        exact .name rfl rfl
    | .array [first, second] =>
        simp only [Form.decode, Except.bind_ok_iff, asText_ok_iff, endOfItems_ok_iff,
          Except.pure_ok_iff, AttrSet.decode_ok_iff, Prod.mk.injEq] at h
        obtain ⟨n, rfl, s, hs, _, rfl, _, -, rfl, rfl, rfl⟩ := h
        exact .attrs hs rfl
    | .array [first, second, third] =>
        simp only [Form.decode, Except.bind_ok_iff, asText_ok_iff, endOfItems_ok_iff,
          Except.pure_ok_iff, AttrSet.decode_ok_iff, asItems_ok_iff_of_part hpart,
          Prod.mk.injEq] at h
        obtain ⟨n, rfl, s, hs, as, has, _, -, rfl, rfl, rfl⟩ := h
        exact .parts hs has
    | .array (_ :: _ :: _ :: _ :: rest) =>
        simp only [Form.decode, Except.bind_ok_iff, endOfItems_ok_iff, List.length_cons] at h
        obtain ⟨_, -, _, -, _, -, _, hlen, -⟩ := h
        omega
    | .null | .bool _ | .number _ | .string _ => cases h
  · rintro (h | ⟨rfl, rfl⟩ | ⟨hattrs, rfl⟩ | ⟨hattrs, hparts⟩)
    · exact decode_members hname (fun a v => (hpart a v).2) h surplus
    · rfl
    · simp [Form.decode, asText, endOfItems, hattrs.decode]
    · simp [Form.decode, asText, endOfItems, hattrs.decode,
        (asItems_ok_iff_of_part hpart).2 hparts]

end Form

namespace Declaration

theorem kind_of_decode {k : Kind} {v : Json} {d : Declaration} (h : k.decode v = .ok d) :
    d.kind = k := by
  cases k <;> obtain ⟨_, -, rfl⟩ := Except.map_ok_iff.1 h <;> rfl

/-- Behind its kind, a declaration is decoded from the values that its parts can be given as. -/
theorem decode_kind_ok_iff {v : Json} {d : Declaration} :
    d.kind.decode v = .ok d ↔ d.PartsGivenAs v := by
  have text (s : String) (v : Json) : asText v = .ok s ↔ TextWrittenAs s v := asText_ok_iff
  have field (f : Field) (v : Json) : Field.decode .ofBuffer v = .ok f ↔ f.GivenAs v :=
    Field.decode_ok_iff
  cases d with
  | record r =>
      obtain ⟨name, attrs, fields⟩ := r
      have form : (⟨"struct Record", "fields", Field.decode .ofBuffer⟩ : Form Field).decode
          .ofBuffer v = .ok (name, attrs, fields) ↔ _ := Form.decode_ok_iff (by decide) field
      refine Iff.trans ?_ form
      simp [kind, Kind.decode, Record.decode]
  | variant a =>
      obtain ⟨name, attrs, variants⟩ := a
      have form : (⟨"struct Variant", "variants", asText⟩ : Form String).decode .ofBuffer v =
          .ok (name, attrs, variants) ↔ _ := Form.decode_ok_iff (by decide) text
      refine Iff.trans ?_ form
      simp [kind, Kind.decode, Variant.decode]
  | flagSet a =>
      obtain ⟨name, attrs, flags⟩ := a
      have form : (⟨"struct FlagSet", "flags", asText⟩ : Form String).decode .ofBuffer v =
          .ok (name, attrs, flags) ↔ _ := Form.decode_ok_iff (by decide) text
      refine Iff.trans ?_ form
      simp [kind, Kind.decode, FlagSet.decode]

theorem gained_of_foldlM_splitKind {found found' : Option Kind × List (String × Json)}
    {ms : List (String × Json)} (h : ms.foldlM splitKind found = .ok found') :
    ∃ ks others, ms.Perm (ks ++ others) ∧ found'.2 = others.reverse ++ found.2 ∧
      Gained "kind" Kind.ofValue found.1 found'.1 ks := by
  induction ms generalizing found with
  | nil =>
      cases h
      exact ⟨[], [], .refl _, rfl, .kept _⟩
  | cons m ms ih =>
      rw [List.foldlM_cons, Except.bind_ok_iff] at h
      obtain ⟨next, hstep, h⟩ := h
      obtain ⟨ks, others, hms, hothers, hks⟩ := ih h
      obtain ⟨name, v⟩ := m
      rw [splitKind] at hstep
      split at hstep
      · next hname =>
        obtain rfl : name = "kind" := hname
        simp only [Except.bind_ok_iff, storeOnce_ok_iff, Except.pure_ok_iff] at hstep
        obtain ⟨_, ⟨hnone, k, hk, rfl⟩, rfl⟩ := hstep
        rw [hnone]
        exact ⟨_, others, hms.cons _, hothers, hks.store hk⟩
      · cases hstep
        refine ⟨ks, (name, v) :: others, (hms.cons _).trans List.perm_middle.symm, ?_, hks⟩
        rw [hothers, List.reverse_cons, List.append_assoc]
        rfl

theorem ofValue_ok_iff {v : Json} {k : Kind} : Kind.ofValue v = .ok k ↔ v = .string k.name := by
  constructor
  · intro h
    cases v with
    | string name => rw [Kind.name_of_ofName h]
    | _ => cases h
  · rintro rfl
    cases k <;> rfl

theorem PartsGivenAs.not_kind {d : Declaration} {ms : List (String × Json)}
    (h : d.PartsGivenAs (.object ms)) : ∀ m ∈ ms, m.1 ≠ "kind" := by
  cases d <;> cases h with
  | object hms => exact hms.forall (by simp) (by simp) (by simp)

theorem PartsGivenAs.perm {d : Declaration} {ms ms' : List (String × Json)}
    (h : d.PartsGivenAs (.object ms)) (hms : ms'.Perm ms) : d.PartsGivenAs (.object ms') := by
  cases d <;> cases h with
  | object h =>
      cases h with
      | mk hattrs hparts h => exact .object (.mk hattrs hparts (hms.trans h))

/-- A declaration is decoded from the values that it can be given as, and from no others. -/
theorem decode_ok_iff {v : Json} {d : Declaration} :
    Declaration.decode v = .ok d ↔ d.GivenAs v := by
  constructor
  · intro h
    match v with
    | .object ms =>
        obtain ⟨⟨kind, rest⟩, hsplit, h⟩ := Except.bind_ok_iff.1 h
        obtain ⟨ks, others, hms, hrest, hks⟩ := gained_of_foldlM_splitKind hsplit
        obtain rfl : rest = others.reverse := hrest.trans (List.append_nil _)
        cases kind with
        | none => cases h
        | some k =>
            cases hks with
            | stored hv =>
                obtain rfl := kind_of_decode h
                rw [ofValue_ok_iff.1 hv] at hms
                dsimp only at h
                rw [List.reverse_reverse] at h
                exact .object (decode_kind_ok_iff.1 h) hms
    | .array [] => cases h
    | .array (kind :: items) =>
        obtain ⟨k, hk, h⟩ := Except.bind_ok_iff.1 h
        obtain rfl := kind_of_decode h
        rw [ofValue_ok_iff.1 hk]
        exact .array (decode_kind_ok_iff.1 h)
    | .null | .bool _ | .number _ | .string _ => cases h
  · rintro (⟨hothers, hms⟩ | hitems)
    · obtain ⟨rest, hrest, hdecode⟩ := decode_object hothers.not_kind hms
      rw [hdecode, decode_kind_ok_iff]
      exact hothers.perm hrest
    · have kind : Kind.ofValue (.string d.kind.name) = .ok d.kind := ofValue_ok_iff.2 rfl
      exact Except.bind_ok_iff.2 ⟨d.kind, kind, decode_kind_ok_iff.2 hitems⟩

end Declaration

end NodeIdGen.Schema
