import Mathlib.Data.List.Permutation
import NodeIdGen.Proofs.Except
import NodeIdGen.Proofs.Json.Spelling
import NodeIdGen.Schema.Document

/-!
# The values that stand for a document

A document can be written as many values: the members of each object may come in any order, a list
without entries may be left out, and the markers of a set may be listed in any order and repeated.
`WrittenAs` relates a document to all of them, and each is decoded to what it was written from. A
step of decoding stores one member, and since steps for different members can be exchanged, the
order of the members does not matter.
-/

namespace NodeIdGen.Schema

open NodeIdGen.Json

variable {α : Type}

/-! ## Forms -/

/-- A list is written as an array of what its parts are written as. -/
inductive ListWrittenAs (part : α → Json → Prop) : List α → Json → Prop
  | array {as : List α} {vs : List Json} (h : List.Forall₂ part as vs) :
      ListWrittenAs part as (.array vs)

/-- The members for a list that is left out, if one likes, when it has no entries. -/
inductive MayOmit (name : String) (noEntries : Prop) (written : Json → Prop) :
    List (String × Json) → Prop
  | given {v : Json} (h : written v) : MayOmit name noEntries written [(name, v)]
  | omitted (h : noEntries) : MayOmit name noEntries written []

/-- A set of markers lists each of them, in any order and as often as one likes. -/
inductive AttrSet.WrittenAs (s : AttrSet) : Json → Prop
  | array {ms : List String} (h : ∀ m, m ∈ ms ↔ m ∈ s) : s.WrittenAs (.array (ms.map .string))

/-- A field is an object with its name and its markers. -/
inductive Field.WrittenAs (f : Field) : Json → Prop
  | object {attrs ms : List (String × Json)}
      (hattrs : MayOmit "attrs" (f.attrs = ∅) f.attrs.WrittenAs attrs)
      (hms : ms.Perm (("name", .string f.name) :: attrs)) : f.WrittenAs (.object ms)

/-- The members that the three kinds of declarations share: a name, markers and parts. -/
inductive MembersWrittenAs (name : String) (attrs : AttrSet) (partsName : String)
    (part : α → Json → Prop) (parts : List α) : List (String × Json) → Prop
  | mk {as ps ms : List (String × Json)} (hattrs : MayOmit "attrs" (attrs = ∅) attrs.WrittenAs as)
      (hparts : MayOmit partsName (parts = []) (ListWrittenAs part parts) ps)
      (hms : ms.Perm (("name", .string name) :: (as ++ ps))) :
      MembersWrittenAs name attrs partsName part parts ms

/-- A string as a value. -/
def TextWrittenAs (s : String) (v : Json) : Prop :=
  v = .string s

/-- The members of a declaration, its kind apart. -/
def Declaration.MembersWrittenAs : Declaration → List (String × Json) → Prop
  | .record r => Schema.MembersWrittenAs r.name r.attrs "fields" Field.WrittenAs r.fields
  | .variant v => Schema.MembersWrittenAs v.name v.attrs "variants" TextWrittenAs v.variants
  | .flagSet f => Schema.MembersWrittenAs f.name f.attrs "flags" TextWrittenAs f.flags

/-- A declaration is an object with its kind among the other members. -/
inductive Declaration.WrittenAs (d : Declaration) : Json → Prop
  | object {others ms : List (String × Json)} (hothers : d.MembersWrittenAs others)
      (hms : ms.Perm (("kind", .string d.kind.name) :: others)) : d.WrittenAs (.object ms)

/-- A document is an object with its version and its declarations. -/
inductive Document.WrittenAs (d : Document) : Json → Prop
  | object {decls : Json} {ms : List (String × Json)}
      (hdecls : ListWrittenAs Declaration.WrittenAs d.decls decls)
      (hms : ms.Perm [("schema_version", .string d.version), ("decls", decls)]) :
      d.WrittenAs (.object ms)

/-! ## Lists and sets -/

theorem ListWrittenAs.asItems {part : α → Json → Prop} {decode : Json → Except Fault α}
    (hpart : ∀ a v, part a v → decode v = .ok a) {as : List α} {v : Json}
    (h : ListWrittenAs part as v) : asItems decode v = .ok as := by
  cases h with
  | array h => exact Except.mapM_eq_ok.2 (h.flip.imp fun v a hv => hpart a v hv)

theorem AttrSet.WrittenAs.decode {s : AttrSet} {v : Json} (h : s.WrittenAs v) :
    AttrSet.decode v = .ok s := by
  cases h with
  | @array ms h =>
      have items : asItems asText (.array (ms.map .string)) = .ok ms := by
        rw [asItems, List.mapM_map]
        exact Except.mapM_ok id ms |>.trans (congrArg Except.ok (List.map_id ms))
      rw [AttrSet.decode, items]
      exact congrArg Except.ok (ofList_eq h)

/-! ## Fields -/

theorem storeOnce_ok_iff {name : String} {old r : Option α} {new : Except Fault α} :
    storeOnce name old new = .ok r ↔ old = none ∧ ∃ a, new = .ok a ∧ some a = r := by
  cases old with
  | none => simp [storeOnce]
  | some a => simp [storeOnce]

/-- What a member that is accepted adds to a field. -/
inductive FieldDraft.Adds (d : FieldDraft) : String × Json → FieldDraft → Prop
  | name {v : Json} {n : String} (hd : d.name = none) (h : asText v = .ok n) :
      d.Adds ("name", v) { d with name := some n }
  | attrs {v : Json} {s : AttrSet} (hd : d.attrs = none) (h : AttrSet.decode v = .ok s) :
      d.Adds ("attrs", v) { d with attrs := some s }

theorem FieldDraft.add_ok_iff {d e : FieldDraft} {m : String × Json} :
    d.add m = .ok e ↔ d.Adds m e := by
  constructor
  · intro h
    obtain ⟨name, v⟩ := m
    unfold FieldDraft.add at h
    dsimp only at h
    split at h
    · simp only [Except.bind_ok_iff, storeOnce_ok_iff, Except.pure_ok_iff] at h
      obtain ⟨_, ⟨hd, n, hn, rfl⟩, rfl⟩ := h
      exact .name hd hn
    · simp only [Except.bind_ok_iff, storeOnce_ok_iff, Except.pure_ok_iff] at h
      obtain ⟨_, ⟨hd, s, hs, rfl⟩, rfl⟩ := h
      exact .attrs hd hs
    · cases h
  · rintro (⟨hd, h⟩ | ⟨hd, h⟩)
    · simp [add, storeOnce, hd, h]
    · simp [add, storeOnce, hd, h]

theorem FieldDraft.add_swap (d : FieldDraft) (m n : String × Json) (e : FieldDraft)
    (h : (d.add m >>= (add · n)) = .ok e) : (d.add n >>= (add · m)) = .ok e := by
  simp only [Except.bind_ok_iff, FieldDraft.add_ok_iff] at h ⊢
  obtain ⟨_, first, second⟩ := h
  -- two members of one name are never both accepted
  cases first with
  | name hd hm =>
      cases second with
      | name he _ => cases he
      | attrs he hn => exact ⟨_, .attrs he hn, .name hd hm⟩
  | attrs hd hm =>
      cases second with
      | name he hn => exact ⟨_, .name he hn, .attrs hd hm⟩
      | attrs he _ => cases he

theorem Field.WrittenAs.decode {f : Field} {v : Json} (h : f.WrittenAs v) (surplus : Surplus) :
    Field.decode surplus v = .ok f := by
  cases h with
  | @object attrs ms hattrs hms =>
      have inOrder : ∃ s, (("name", Json.string f.name) :: attrs).foldlM FieldDraft.add {} =
          .ok ⟨some f.name, s⟩ ∧ s.getD ∅ = f.attrs := by
        cases hattrs with
        | given h =>
            refine ⟨some f.attrs, ?_, rfl⟩
            simp [FieldDraft.add, storeOnce, asText, h.decode]
        | omitted h => exact ⟨none, rfl, h.symm⟩
      obtain ⟨s, hfold, hs⟩ := inOrder
      have members := Except.foldlM_ok_of_perm FieldDraft.add_swap hms.symm hfold
      unfold Field.decode
      dsimp only
      rw [members]
      show Except.ok (Field.mk f.name (s.getD ∅)) = _
      rw [hs]

/-! ## Declarations -/

namespace Form

/-- What a member that is accepted adds to a declaration. -/
inductive Adds (f : Form α) (d : Draft α) : String × Json → Draft α → Prop
  | name {v : Json} {n : String} (hd : d.name = none) (h : asText v = .ok n) :
      f.Adds d ("name", v) { d with name := some n }
  | attrs {v : Json} {s : AttrSet} (hd : d.attrs = none) (h : AttrSet.decode v = .ok s) :
      f.Adds d ("attrs", v) { d with attrs := some s }
  | parts {v : Json} {as : List α} (hname : f.partsName ∉ ["name", "attrs"]) (hd : d.parts = none)
      (h : asItems f.part v = .ok as) : f.Adds d (f.partsName, v) { d with parts := some as }

variable {f : Form α}

theorem add_ok_iff {d e : Draft α} {m : String × Json} :
    f.add d m = .ok e ↔ f.Adds d m e := by
  constructor
  · intro h
    obtain ⟨name, v⟩ := m
    simp only [add] at h
    split at h
    · next hname =>
      subst hname
      simp only [Except.bind_ok_iff, storeOnce_ok_iff, Except.pure_ok_iff] at h
      obtain ⟨_, ⟨hd, n, hn, rfl⟩, rfl⟩ := h
      exact .name hd hn
    · split at h
      · next hname =>
        subst hname
        simp only [Except.bind_ok_iff, storeOnce_ok_iff, Except.pure_ok_iff] at h
        obtain ⟨_, ⟨hd, s, hs, rfl⟩, rfl⟩ := h
        exact .attrs hd hs
      · split at h
        · next hname hattrs hparts =>
          subst hparts
          simp only [Except.bind_ok_iff, storeOnce_ok_iff, Except.pure_ok_iff] at h
          obtain ⟨_, ⟨hd, as, has, rfl⟩, rfl⟩ := h
          exact .parts (by simp [hname, hattrs]) hd has
        · cases h
  · rintro (⟨hd, h⟩ | ⟨hd, h⟩ | ⟨hname, hd, h⟩)
    · simp [add, storeOnce, hd, h]
    · simp [add, storeOnce, hd, h]
    · simp only [List.mem_cons, List.not_mem_nil, or_false, not_or] at hname
      simp [add, storeOnce, hd, h, hname]

theorem add_swap (d : Draft α) (m n : String × Json) (e : Draft α)
    (h : (f.add d m >>= (f.add · n)) = .ok e) : (f.add d n >>= (f.add · m)) = .ok e := by
  simp only [Except.bind_ok_iff, add_ok_iff] at h ⊢
  obtain ⟨_, first, second⟩ := h
  cases first with
  | name hd hm =>
      cases second with
      | name he _ => cases he
      | attrs he hn => exact ⟨_, .attrs he hn, .name hd hm⟩
      | parts hname he hn => exact ⟨_, .parts hname he hn, .name hd hm⟩
  | attrs hd hm =>
      cases second with
      | name he hn => exact ⟨_, .name he hn, .attrs hd hm⟩
      | attrs he _ => cases he
      | parts hname he hn => exact ⟨_, .parts hname he hn, .attrs hd hm⟩
  | parts hname hd hm =>
      cases second with
      | name he hn => exact ⟨_, .name he hn, .parts hname hd hm⟩
      | attrs he hn => exact ⟨_, .attrs he hn, .parts hname hd hm⟩
      | parts _ he _ => cases he

/-- The members of a declaration give back what they were made of, in whatever order they come. -/
theorem decode_members (hname : f.partsName ∉ ["name", "attrs"]) {part : α → Json → Prop}
    (hpart : ∀ a v, part a v → f.part v = .ok a) {name : String} {attrs : AttrSet} {parts : List α}
    {ms : List (String × Json)} (h : MembersWrittenAs name attrs f.partsName part parts ms)
    (surplus : Surplus) : f.decode surplus (.object ms) = .ok (name, attrs, parts) := by
  cases h with
  | @mk as ps ms hattrs hparts hms =>
      have named : f.add {} ("name", .string name) = .ok { name := some name } :=
        add_ok_iff.2 (.name rfl rfl)
      have withAttrs : ∃ s, as.foldlM f.add { name := some name } = .ok ⟨some name, s, none⟩ ∧
          s.getD ∅ = attrs := by
        cases hattrs with
        | given h =>
            refine ⟨some attrs, ?_, rfl⟩
            rw [List.foldlM_cons, add_ok_iff.2 (.attrs rfl h.decode)]
            rfl
        | omitted h => exact ⟨none, rfl, h.symm⟩
      obtain ⟨s, hs, rfl⟩ := withAttrs
      have withParts : ∃ l, ps.foldlM f.add ⟨some name, s, none⟩ = .ok ⟨some name, s, l⟩ ∧
          l.getD [] = parts := by
        cases hparts with
        | given h =>
            refine ⟨some parts, ?_, rfl⟩
            rw [List.foldlM_cons, add_ok_iff.2 (.parts hname rfl (h.asItems hpart))]
            rfl
        | omitted h => exact ⟨none, rfl, h.symm⟩
      obtain ⟨l, hl, rfl⟩ := withParts
      have inOrder : (("name", Json.string name) :: (as ++ ps)).foldlM f.add {} =
          .ok ⟨some name, s, l⟩ := by
        rw [List.foldlM_cons, named]
        show (as ++ ps).foldlM f.add { name := some name } = _
        rw [List.foldlM_append, hs]
        exact hl
      have members := Except.foldlM_ok_of_perm add_swap hms.symm inOrder
      unfold Form.decode
      dsimp only
      rw [members]
      rfl

end Form

namespace Declaration

theorem MembersWrittenAs.decode {d : Declaration} {ms : List (String × Json)}
    (h : d.MembersWrittenAs ms) : d.kind.decode (.object ms) = .ok d := by
  have text : ∀ (s : String) v, TextWrittenAs s v → asText v = .ok s := by
    rintro s v rfl
    rfl
  cases d with
  | record r =>
      have members := Form.decode_members (f := ⟨"struct Record", "fields", Field.decode .ofBuffer⟩)
        (by decide) (fun f v hv => hv.decode .ofBuffer) h .ofBuffer
      show Declaration.record <$> Record.decode .ofBuffer (.object ms) = _
      rw [Record.decode, members]
      rfl
  | variant v =>
      have members := Form.decode_members (f := ⟨"struct Variant", "variants", asText⟩)
        (by decide) text h .ofBuffer
      show Declaration.variant <$> Variant.decode .ofBuffer (.object ms) = _
      rw [Variant.decode, members]
      rfl
  | flagSet f =>
      have members := Form.decode_members (f := ⟨"struct FlagSet", "flags", asText⟩)
        (by decide) text h .ofBuffer
      show Declaration.flagSet <$> FlagSet.decode .ofBuffer (.object ms) = _
      rw [FlagSet.decode, members]
      rfl

/-- Members other than the kind are set aside as they are. -/
theorem foldlM_splitKind {found : Option Kind} {ms : List (String × Json)}
    (h : ∀ m ∈ ms, m.1 ≠ "kind") (before : List (String × Json)) :
    ms.foldlM splitKind (found, before) = .ok (found, ms.reverse ++ before) := by
  induction ms generalizing before with
  | nil => rfl
  | cons m ms ih =>
      rw [List.forall_mem_cons] at h
      have aside : splitKind (found, before) m = .ok (found, m :: before) := by
        rw [splitKind, if_neg h.1]
        rfl
      rw [List.foldlM_cons, aside, List.reverse_cons, List.append_assoc]
      exact ih h.2 (m :: before)

theorem MembersWrittenAs.perm {d : Declaration} {ms ms' : List (String × Json)}
    (h : d.MembersWrittenAs ms) (hms : ms'.Perm ms) : d.MembersWrittenAs ms' := by
  cases d <;> cases h with
  | mk hattrs hparts h => exact .mk hattrs hparts (hms.trans h)

end Declaration

/-! ## What members hold -/

theorem MayOmit.forall {name : String} {noEntries : Prop} {written : Json → Prop}
    {ms : List (String × Json)} (h : MayOmit name noEntries written ms)
    {p : String × Json → Prop} (hp : ∀ v, written v → p (name, v)) : ∀ m ∈ ms, p m := by
  cases h with
  | given h => exact List.forall_mem_singleton.2 (hp _ h)
  | omitted h => exact List.forall_mem_nil _

theorem MembersWrittenAs.forall {name partsName : String} {attrs : AttrSet}
    {part : α → Json → Prop} {parts : List α} {ms : List (String × Json)}
    (h : MembersWrittenAs name attrs partsName part parts ms) {p : String × Json → Prop}
    (hname : p ("name", .string name)) (hattrs : ∀ v, attrs.WrittenAs v → p ("attrs", v))
    (hparts : ∀ v, ListWrittenAs part parts v → p (partsName, v)) : ∀ m ∈ ms, p m := by
  cases h with
  | mk has hps hms =>
      intro m hm
      rcases List.mem_cons.1 (hms.mem_iff.1 hm) with rfl | hm
      · exact hname
      · rcases List.mem_append.1 hm with hm | hm
        · exact has.forall hattrs m hm
        · exact hps.forall hparts m hm

theorem Declaration.MembersWrittenAs.not_kind {d : Declaration} {ms : List (String × Json)}
    (h : d.MembersWrittenAs ms) : ∀ m ∈ ms, m.1 ≠ "kind" := by
  cases d <;> exact Schema.MembersWrittenAs.forall h (by simp) (by simp) (by simp)

/-- The kind is found wherever it stands among the members, and the others are decoded as it
says. -/
theorem Declaration.decode_object {k : Kind} {others ms : List (String × Json)}
    (hothers : ∀ m ∈ others, m.1 ≠ "kind")
    (hms : ms.Perm (("kind", .string k.name) :: others)) :
    ∃ rest, rest.Perm others ∧ Declaration.decode (.object ms) = k.decode (.object rest) := by
  -- the kind parts the members, and those on its two sides are the others in some order
  obtain ⟨before, after, rfl⟩ := List.append_of_mem (hms.mem_iff.2 List.mem_cons_self)
  have rest : (before ++ after).Perm others :=
    (List.perm_middle.symm.trans hms).cons_inv
  have apart : ∀ m ∈ before ++ after, m.1 ≠ "kind" := fun m hm =>
    hothers m (rest.mem_iff.1 hm)
  rw [List.forall_mem_append] at apart
  have kind : splitKind (none, before.reverse) ("kind", .string k.name) =
      .ok (some k, before.reverse) := by
    cases k <;> rfl
  have split : (before ++ ("kind", .string k.name) :: after).foldlM splitKind (none, []) =
      .ok (some k, after.reverse ++ before.reverse) := by
    rw [List.foldlM_append, foldlM_splitKind apart.1, List.append_nil]
    show (("kind", Json.string k.name) :: after).foldlM splitKind _ = _
    rw [List.foldlM_cons, kind]
    exact foldlM_splitKind apart.2 _
  refine ⟨before ++ after, rest, ?_⟩
  unfold Declaration.decode
  dsimp only
  rw [split]
  show k.decode (.object (after.reverse ++ before.reverse).reverse) = _
  rw [← List.reverse_append, List.reverse_reverse]

theorem Declaration.WrittenAs.decode {d : Declaration} {v : Json} (h : d.WrittenAs v) :
    Declaration.decode v = .ok d := by
  cases h with
  | object hothers hms =>
      obtain ⟨rest, hrest, hdecode⟩ := decode_object hothers.not_kind hms
      rw [hdecode]
      exact (hothers.perm hrest).decode

/-! ## How deep the values nest -/

section Nesting

variable (n : Nat)

theorem AttrSet.WrittenAs.textual {s : AttrSet} {v : Json} (h : s.WrittenAs v) :
    Textual (n + 2) v := by
  cases h with
  | array h => exact .array (List.forall_mem_map.2 fun m _ => .string n m)

theorem ListWrittenAs.textual {part : α → Json → Prop} {as : List α} {v : Json}
    (h : ListWrittenAs part as v) (hpart : ∀ a v, part a v → Textual (n + 1) v) :
    Textual (n + 2) v := by
  cases h with
  | array h =>
      refine .array ?_
      induction h with
      | nil => exact List.forall_mem_nil _
      | cons ha _ ih => exact List.forall_mem_cons.2 ⟨hpart _ _ ha, ih⟩

theorem Field.WrittenAs.textual {f : Field} {v : Json} (h : f.WrittenAs v) :
    Textual (n + 3) v := by
  cases h with
  | object hattrs hms =>
      refine .object fun m hm => ?_
      rcases List.mem_cons.1 (hms.mem_iff.1 hm) with rfl | hm
      · exact .string _ _
      · exact hattrs.forall (p := fun m => Textual (n + 2) m.2) (fun v hv => hv.textual n) m hm

theorem Declaration.MembersWrittenAs.textual {d : Declaration} {ms : List (String × Json)}
    (h : d.MembersWrittenAs ms) : ∀ m ∈ ms, Textual (n + 4) m.2 := by
  have text : ∀ s v, TextWrittenAs s v → Textual (n + 3) v := by
    rintro s v rfl
    exact .string _ s
  cases d with
  | record r =>
      exact Schema.MembersWrittenAs.forall h (.string _ _) (fun v hv => hv.textual (n + 2))
        fun v hv => hv.textual (n + 2) fun f v hv => hv.textual n
  | variant v =>
      exact Schema.MembersWrittenAs.forall h (.string _ _) (fun v hv => hv.textual (n + 2))
        fun v hv => hv.textual (n + 2) text
  | flagSet f =>
      exact Schema.MembersWrittenAs.forall h (.string _ _) (fun v hv => hv.textual (n + 2))
        fun v hv => hv.textual (n + 2) text

theorem Declaration.WrittenAs.textual {d : Declaration} {v : Json} (h : d.WrittenAs v) :
    Textual (n + 5) v := by
  cases h with
  | object hothers hms =>
      refine .object fun m hm => ?_
      rcases List.mem_cons.1 (hms.mem_iff.1 hm) with rfl | hm
      · exact .string _ _
      · exact hothers.textual n m hm

theorem Document.WrittenAs.textual {d : Document} {v : Json} (h : d.WrittenAs v) :
    Textual (n + 7) v := by
  cases h with
  | object hdecls hms =>
      refine .object fun m hm => ?_
      rcases List.mem_pair.1 (hms.mem_iff.1 hm) with rfl | rfl
      · exact .string _ _
      · exact hdecls.textual (n + 4) fun d v hv => hv.textual n

end Nesting

end NodeIdGen.Schema
