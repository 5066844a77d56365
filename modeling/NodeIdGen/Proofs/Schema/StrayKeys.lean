import NodeIdGen.Proofs.Json.Tracking
import NodeIdGen.Proofs.Schema.WrittenForms

/-!
# Stray keys are refused

An object of a schema document may have only the members that are known for its place, and each of
them once. `StrayInDocument` says of the tree of a text that an object in such a place has another
member or one member twice, however the name is written, and `stray_key_refused` that no such text
is loaded.

The reader is followed from the inside out: the object of a field, decoded from a value; the object
of a declaration, whose kind is read at once and whose other members are kept as values until the
kind is known; and the document itself. Each level has one step for a member, which is taken only if
the name is known and was not seen before.
-/

namespace NodeIdGen.Schema

open NodeIdGen.Json NodeIdGen.Json.Reader

/-! ## Stray keys -/

/-- An object has a member of a name that it may not have, or two members of one name. -/
inductive StrayKey (Admitted : String → Prop) (ms : List (List Char × Tree)) : Prop
  | unknown {m : List Char × Tree} (hm : m ∈ ms) (h : ∀ n, SpellsString n m.1 → ¬ Admitted n)
  | repeated {n : String} {m m' : List Char × Tree} (h : [m, m'].Sublist ms)
      (hm : SpellsString n m.1) (hm' : SpellsString n m'.1)

/-- An object has a member of this name, however it is written, with this value. -/
def HasMember (ms : List (List Char × Tree)) (name : String) (t : Tree) : Prop :=
  ∃ token, SpellsString name token ∧ (token, t) ∈ ms

/-- The name of the member that holds the parts of a declaration. -/
def Kind.partsName : Kind → String
  | .record => "fields"
  | .variant => "variants"
  | .flagSet => "flags"

/-- An object in the place of a field has a stray key. -/
inductive StrayInField : Tree → Prop
  | object {ms : List (List Char × Tree)} (h : StrayKey (· ∈ ["name", "attrs"]) ms) :
      StrayInField (.object ms)

/-- The tree stands in the place of a field of the declaration, which is an object or an array. -/
inductive FieldOf : Tree → Tree → Prop
  | member {ms : List (List Char × Tree)} {ts : List Tree} {t : Tree}
      (h : HasMember ms "fields" (.array ts)) (ht : t ∈ ts) : FieldOf (.object ms) t
  | item {kind name attrs : Tree} {ts rest : List Tree} {t : Tree} (ht : t ∈ ts) :
      FieldOf (.array (kind :: name :: attrs :: .array ts :: rest)) t

/-- The names that the object of a declaration may have, which depend on the kind that it has. -/
def DeclarationKey (ms : List (List Char × Tree)) (n : String) : Prop :=
  n ∈ ["kind", "name", "attrs"] ∨ ∃ (k : Kind) (token : List Char),
    SpellsString k.name token ∧ HasMember ms "kind" (.string token) ∧ n = k.partsName

/-- An object in the place of a declaration has a stray key, or one of its fields has. -/
inductive StrayInDeclaration : Tree → Prop
  | object {ms : List (List Char × Tree)} (h : StrayKey (DeclarationKey ms) ms) :
      StrayInDeclaration (.object ms)
  | field {d t : Tree} (hfield : FieldOf d t) (h : StrayInField t) : StrayInDeclaration d

/-- The tree stands in the place of a declaration of the document, which is an object or an
array. -/
inductive DeclarationOf : Tree → Tree → Prop
  | member {ms : List (List Char × Tree)} {ts : List Tree} {t : Tree}
      (h : HasMember ms "decls" (.array ts)) (ht : t ∈ ts) : DeclarationOf (.object ms) t
  | item {version : Tree} {ts rest : List Tree} {t : Tree} (ht : t ∈ ts) :
      DeclarationOf (.array (version :: .array ts :: rest)) t

/-- The object of a document has a stray key, or one of its declarations has. -/
inductive StrayInDocument : Tree → Prop
  | object {ms : List (List Char × Tree)} (h : StrayKey (· ∈ Document.fieldNames) ms) :
      StrayInDocument (.object ms)
  | declaration {d t : Tree} (hdecl : DeclarationOf d t) (h : StrayInDeclaration t) :
      StrayInDocument d

variable {cs w : List Char} {ms : List (List Char × Tree)}

/-! ## Names of members -/

/-- There is no stray key where the names that are read are known and differ. -/
theorem not_strayKey {Admitted : String → Prop} {ns : List String}
    (hnames : List.Forall₂ (fun m n => SpellsString n m.1) ms ns) (hnodup : ns.Nodup)
    (hadmitted : ∀ n ∈ ns, Admitted n) : ¬ StrayKey Admitted ms := by
  have distinct : ms.Pairwise fun m m' => ∀ n, SpellsString n m.1 → ¬ SpellsString n m'.1 := by
    induction hnames with
    | nil => exact .nil
    | @cons m n ms ns hm hnames ih =>
        obtain ⟨hn, hnodup⟩ := List.nodup_cons.1 hnodup
        refine .cons (fun m' hm' n' h h' => ?_) (ih hnodup fun n hn => hadmitted n (.tail _ hn))
        obtain ⟨n'', hn'', hm''⟩ := List.exists_of_forall₂ hnames m' hm'
        obtain rfl := h.unique hm
        obtain rfl := h'.unique hm''
        exact hn hn''
  rintro (⟨hm, h⟩ | ⟨h, hm, hm'⟩)
  · obtain ⟨n, hn, hspelled⟩ := List.exists_of_forall₂ hnames _ hm
    exact h n hspelled (hadmitted n hn)
  · exact List.pairwise_iff_forall_sublist.1 distinct h _ hm hm'

/-- The names that tokens stand for tell which members there are. -/
theorem hasMember_iff {qs : List (String × Tree)} (h : Named ms qs) {name : String} {t : Tree} :
    HasMember ms name t ↔ (name, t) ∈ qs := by
  constructor
  · rintro ⟨token, hname, hmem⟩
    obtain ⟨⟨name', t'⟩, hq, hname', htree⟩ := List.exists_of_forall₂ h _ hmem
    obtain rfl := hname.unique hname'
    obtain rfl : t = t' := htree
    exact hq
  · intro hq
    obtain ⟨⟨token, t'⟩, hmem, hname, htree⟩ := List.exists_of_forall₂ h.flip _ hq
    obtain rfl : t' = t := htree
    exact ⟨token, hname, hmem⟩

theorem names_of_named {qs : List (String × Tree)} (h : Named ms qs) :
    List.Forall₂ (fun m n => SpellsString n m.1) ms (qs.map (·.1)) :=
  List.forall₂_map_right_iff.2 (h.imp fun _ _ h => h.1)

/-! ## Steps that take each name once -/

section Runs

variable {β σ ε : Type} {R : σ → String × β → σ → Prop} {qs : List (String × β)} {s u : σ}

theorem runs_of_foldlM {f : σ → String × β → Except ε σ} (hf : ∀ s q t, f s q = .ok t → R s q t)
    (h : qs.foldlM f s = .ok u) : Runs R s qs u := by
  induction qs generalizing s with
  | nil =>
      cases h
      exact .nil _
  | cons q qs ih =>
      rw [List.foldlM_cons, Except.bind_ok_iff] at h
      obtain ⟨t, ht, h⟩ := h
      exact .cons (hf s q t ht) (ih h)

theorem forall_of_runs {P : String × β → Prop} (h : Runs R s qs u)
    (hR : ∀ s q t, R s q t → P q) : ∀ q ∈ qs, P q := by
  induction h with
  | nil s => exact List.forall_mem_nil _
  | cons h _ ih => exact List.forall_mem_cons.2 ⟨hR _ _ _ h, ih⟩

/-- Where each step is for a name that was not seen before, and keeps in mind what was, the names
differ. -/
theorem nodup_of_runs {Seen : σ → String → Prop} (h : Runs R s qs u)
    (hR : ∀ s q t, R s q t → ¬ Seen s q.1 ∧ Seen t q.1 ∧ ∀ n, Seen s n → Seen t n) :
    (qs.map (·.1)).Nodup ∧ ∀ n ∈ qs.map (·.1), ¬ Seen s n := by
  induction h with
  | nil s => exact ⟨.nil, List.forall_mem_nil _⟩
  | cons h _ ih =>
      obtain ⟨hnew, hseen, hkept⟩ := hR _ _ _ h
      rw [List.map_cons, List.nodup_cons, List.forall_mem_cons]
      exact ⟨⟨fun hmem => ih.2 _ hmem hseen, ih.1⟩, hnew, fun n hn hs => ih.2 n hn (hkept n hs)⟩

end Runs

/-! ## Fields -/

/-- The member of this name was read. -/
def FieldDraft.Seen (d : FieldDraft) (n : String) : Prop :=
  n = "name" ∧ d.name.isSome ∨ n = "attrs" ∧ d.attrs.isSome

theorem FieldDraft.Adds.once {d e : FieldDraft} {m : String × Json} (h : d.Adds m e) :
    ¬ d.Seen m.1 ∧ e.Seen m.1 ∧ ∀ n, d.Seen n → e.Seen n := by
  cases h with
  | name hd _ => simp +contextual [Seen, hd]
  | attrs hd _ => simp +contextual [Seen, hd]

theorem FieldDraft.Adds.mem {d e : FieldDraft} {m : String × Json} (h : d.Adds m e) :
    m.1 ∈ ["name", "attrs"] := by
  cases h <;> simp

theorem not_strayInField {surplus : Surplus} {t : Tree} {v : Json} {f : Field} (hv : t.Denotes v)
    (h : Field.decode surplus v = .ok f) : ¬ StrayInField t := by
  rintro ⟨hstray⟩
  cases hv with
  | @object _ vs hnames _ =>
      unfold Field.decode at h
      obtain ⟨d, hd, -⟩ := Except.bind_ok_iff.1 h
      have runs : Runs FieldDraft.Adds {} vs d :=
        runs_of_foldlM (fun _ _ _ => FieldDraft.add_ok_iff.1) hd
      have distinct := nodup_of_runs runs fun _ _ _ => FieldDraft.Adds.once
      have known := forall_of_runs runs fun _ _ _ => FieldDraft.Adds.mem
      refine not_strayKey (List.forall₂_map_right_iff.2 hnames) distinct.1 ?_ hstray
      exact List.forall_mem_map.2 known

/-! ## The parts of declarations -/

namespace Form

variable {α : Type} {f : Form α}

def Seen (f : Form α) (d : Draft α) (n : String) : Prop :=
  n = "name" ∧ d.name.isSome ∨ n = "attrs" ∧ d.attrs.isSome ∨ n = f.partsName ∧ d.parts.isSome

theorem Adds.once (hname : f.partsName ∉ ["name", "attrs"]) {d e : Draft α} {m : String × Json}
    (h : f.Adds d m e) : ¬ f.Seen d m.1 ∧ f.Seen e m.1 ∧ ∀ n, f.Seen d n → f.Seen e n := by
  simp only [List.mem_cons, List.not_mem_nil, or_false, not_or] at hname
  cases h with
  | name hd _ => simp +contextual [Seen, hd, Ne.symm hname.1]
  | attrs hd _ => simp +contextual [Seen, hd, Ne.symm hname.2, or_imp]
  | parts _ hd _ => simp +contextual [Seen, hd, hname, or_imp]

theorem Adds.known (hname : f.partsName ∉ ["name", "attrs"]) {d e : Draft α} {m : String × Json}
    (h : f.Adds d m e) : m.1 ∈ ["name", "attrs", f.partsName] ∧
      (m.1 = f.partsName → ∃ as, asItems f.part m.2 = .ok as) := by
  simp only [List.mem_cons, List.not_mem_nil, or_false, not_or] at hname
  cases h with
  | name _ _ => simp [Ne.symm hname.1]
  | attrs _ _ => simp [Ne.symm hname.2]
  | parts _ _ h => simp [h]

theorem members_of_decode (hname : f.partsName ∉ ["name", "attrs"]) {surplus : Surplus}
    {vs : List (String × Json)} {r : String × AttrSet × List α}
    (h : f.decode surplus (.object vs) = .ok r) :
    (vs.map (·.1)).Nodup ∧ ∀ v ∈ vs, v.1 ∈ ["name", "attrs", f.partsName] ∧
      (v.1 = f.partsName → ∃ as, asItems f.part v.2 = .ok as) := by
  unfold Form.decode at h
  obtain ⟨d, hd, -⟩ := Except.bind_ok_iff.1 h
  have runs : Runs f.Adds {} vs d := runs_of_foldlM (fun _ _ _ => add_ok_iff.1) hd
  exact ⟨(nodup_of_runs runs fun _ _ _ => Adds.once hname).1,
    forall_of_runs runs fun _ _ _ => Adds.known hname⟩

theorem parts_of_decode {surplus : Surplus} {name attrs parts : Json} {rest : List Json}
    {r : String × AttrSet × List α}
    (h : f.decode surplus (.array (name :: attrs :: parts :: rest)) = .ok r) :
    ∃ as, asItems f.part parts = .ok as := by
  unfold Form.decode at h
  simp only [Except.bind_ok_iff] at h
  obtain ⟨_, -, _, -, as, has, -⟩ := h
  exact ⟨as, has⟩

end Form

/-- A declaration of each kind is read as a form, of whose parts only fields are objects. -/
theorem form_of_kind {k : Kind} {v : Json} {d : Declaration} (h : k.decode v = .ok d) :
    ∃ (α : Type) (f : Form α), f.partsName = k.partsName ∧
      (∀ t v a, Tree.Denotes t v → f.part v = .ok a → ¬ StrayInField t) ∧
      ∃ r, f.decode .ofBuffer v = .ok r := by
  have text : ∀ t v s, Tree.Denotes t v → asText v = .ok s → ¬ StrayInField t := by
    rintro _ _ s (_ | _ | _ | _) h ⟨⟩
    cases h
  cases k with
  | record =>
      obtain ⟨r, hr, -⟩ := Except.map_ok_iff.1 h
      obtain ⟨p, hp, -⟩ := Except.bind_ok_iff.1 hr
      exact ⟨Field, _, rfl, fun _ _ _ => not_strayInField, p, hp⟩
  | variant =>
      obtain ⟨r, hr, -⟩ := Except.map_ok_iff.1 h
      obtain ⟨p, hp, -⟩ := Except.bind_ok_iff.1 hr
      exact ⟨String, _, rfl, text, p, hp⟩
  | flagSet =>
      obtain ⟨r, hr, -⟩ := Except.map_ok_iff.1 h
      obtain ⟨p, hp, -⟩ := Except.bind_ok_iff.1 hr
      exact ⟨String, _, rfl, text, p, hp⟩

theorem not_strayInField_of_asItems {α : Type} {part : Json → Except Fault α}
    (hpart : ∀ t v a, Tree.Denotes t v → part v = .ok a → ¬ StrayInField t) {ts : List Tree}
    {v : Json} (hv : Tree.Denotes (.array ts) v) {as : List α} (h : asItems part v = .ok as) :
    ∀ t ∈ ts, ¬ StrayInField t := by
  cases hv with
  | array hvs =>
      intro t ht
      obtain ⟨v, hv, htv⟩ := List.exists_of_forall₂ hvs t ht
      obtain ⟨a, -, ha⟩ := List.exists_of_forall₂ (Except.mapM_eq_ok.1 h) v hv
      exact hpart t v a htv ha

/-! ## Kinds -/

theorem Kind.partsName_not_mem (k : Kind) : k.partsName ∉ ["kind", "name", "attrs"] := by
  cases k <;> decide

/-- The name of a kind, written as a string. -/
def IsKind (k : Kind) (t : Tree) : Prop :=
  ∃ token, t = .string token ∧ SpellsString k.name token

theorem Kind.name_of_ofName {name : String} {k : Kind} (h : Kind.ofName name = .ok k) :
    name = k.name := by
  unfold Kind.ofName at h
  split at h <;> cases h <;> rfl

theorem Kind.tracks_read {t : Tree} (h : t.Spelled cs) : Tracks Kind.read cs (IsKind · t) := by
  intro rest k rest' hrest hok
  unfold Kind.read at hok
  obtain ⟨name, _, hname, hend⟩ := ok_of_bind hok
  obtain ⟨⟨token, rfl, hspelled⟩, rfl⟩ := tracks_stringFor _ h hrest hname
  obtain ⟨hk, rfl⟩ := ok_of_lift hend
  exact ⟨⟨token, rfl, Kind.name_of_ofName hk ▸ hspelled⟩, rfl⟩

/-! ## Declarations -/

namespace Declaration

variable {n : Nat} {t : Tree}

/-- What a member that is read adds to what was found of a declaration. -/
inductive Adds : Option Kind × List (String × Json) → String × Tree →
    Option Kind × List (String × Json) → Prop
  | kind {k : Kind} {t : Tree} {others : List (String × Json)} (h : IsKind k t) :
      Adds (none, others) ("kind", t) (some k, others)
  | other {kind : Option Kind} {others : List (String × Json)} {q : String × Tree}
      {v : String × Json} (hname : q.1 ≠ "kind") (h : DenotesMember q v) :
      Adds (kind, others) q (kind, v :: others)

theorem tracks_readMember {found : Option Kind × List (String × Json)} {name : String}
    {vs : List Char} (hw : IsGap w) (h : t.Spelled vs) :
    Tracks (readMember n found name) (w ++ [':'] ++ vs) (Adds found (name, t)) := by
  obtain ⟨kind, others⟩ := found
  unfold readMember
  refine .ite (fun hname => ?_) fun hname => ?_
  · subst hname
    cases kind with
    | some k => exact .of_error fun _ _ => nofun
    | none => exact .bind (reads_colon hw) ((Kind.tracks_read h).bind_pure fun _ => .kind)
  · exact .bind (reads_colon hw) ((tracks_value n h).bind_pure fun v hv => .other hname ⟨rfl, hv⟩)

/-- The kind is found once at most, and the other members are kept, last first. -/
theorem others_of_runs {found found' : Option Kind × List (String × Json)}
    {qs : List (String × Tree)} (h : Runs Adds found qs found') :
    ∃ others vs, found'.2 = vs.reverse ++ found.2 ∧ List.Forall₂ DenotesMember others vs ∧
      (found'.1 = found.1 ∧ qs.Perm others ∨ found.1 = none ∧
        ∃ k t, found'.1 = some k ∧ IsKind k t ∧ qs.Perm (("kind", t) :: others)) := by
  induction h with
  | nil s => exact ⟨[], [], rfl, .nil, .inl ⟨rfl, .nil⟩⟩
  | @cons s t u q qs hq _ ih =>
      obtain ⟨others, vs, hu, hvs, hkind⟩ := ih
      cases hq with
      | @kind k t _ ht =>
          refine ⟨others, vs, hu, hvs, .inr ⟨rfl, k, t, ?_⟩⟩
          rcases hkind with ⟨hk, hperm⟩ | ⟨hnone, -⟩
          · exact ⟨hk, ht, hperm.cons _⟩
          · cases hnone
      | @other kind before q v _ hv =>
          refine ⟨q :: others, v :: vs, by simp [hu], .cons hv hvs, ?_⟩
          rcases hkind with ⟨hk, hperm⟩ | ⟨hnone, k, t, hk, ht, hperm⟩
          · exact .inl ⟨hk, hperm.cons _⟩
          · exact .inr ⟨hnone, k, t, hk, ht, (hperm.cons _).trans (.swap _ _ _)⟩

theorem names_of_denotes {qs : List (String × Tree)} {vs : List (String × Json)}
    (h : List.Forall₂ DenotesMember qs vs) : qs.map (·.1) = vs.map (·.1) := by
  induction h with
  | nil => rfl
  | cons h _ ih => rw [List.map_cons, List.map_cons, h.1, ih]

/-- What is known of the members of a declaration that was decoded. -/
theorem members_of_decode {qs : List (String × Tree)} {k : Kind} {others : List (String × Json)}
    (hruns : Runs Adds (none, []) qs (some k, others)) {d : Declaration}
    (hd : k.decode (.object others.reverse) = .ok d) :
    (qs.map (·.1)).Nodup ∧ (∃ t, IsKind k t ∧ ("kind", t) ∈ qs) ∧
      (∀ n ∈ qs.map (·.1), n ∈ ["kind", "name", "attrs", k.partsName]) ∧
      ∀ ts, ("fields", .array ts) ∈ qs → ∀ t ∈ ts, ¬ StrayInField t := by
  obtain ⟨trees, vs, hvs, hdenotes, hkind⟩ := others_of_runs hruns
  obtain ⟨hnone, -⟩ | ⟨-, k', t, hk, ht, hperm⟩ := hkind
  · cases hnone
  obtain rfl := Option.some.inj hk
  obtain rfl : others = vs.reverse := hvs.trans (List.append_nil _)
  rw [List.reverse_reverse] at hd
  obtain ⟨α, f, hparts, hpart, r, hr⟩ := form_of_kind hd
  have hname : f.partsName ∉ ["name", "attrs"] := fun h =>
    Kind.partsName_not_mem k (hparts ▸ List.mem_cons_of_mem _ h)
  obtain ⟨hnodup, hknown⟩ := Form.members_of_decode hname hr
  have names : (qs.map (·.1)).Perm ("kind" :: vs.map (·.1)) := by
    rw [← names_of_denotes hdenotes]
    exact hperm.map _
  have known : ∀ n ∈ vs.map (·.1), n ∈ ["name", "attrs", k.partsName] :=
    List.forall_mem_map.2 fun v hv => hparts ▸ (hknown v hv).1
  refine ⟨names.nodup_iff.2 (List.nodup_cons.2 ⟨fun hmem => ?_, hnodup⟩), ⟨t, ht, ?_⟩, ?_, ?_⟩
  · have kind : "kind" = k.partsName := by simpa using known _ hmem
    exact Kind.partsName_not_mem k (kind ▸ List.mem_cons_self)
  · exact hperm.mem_iff.2 List.mem_cons_self
  · intro n hn
    rcases List.mem_cons.1 (names.mem_iff.1 hn) with rfl | hn
    · exact List.mem_cons_self
    · exact List.mem_cons_of_mem _ (known n hn)
  · intro ts hts
    obtain hq | hq := List.mem_cons.1 (hperm.mem_iff.1 hts)
    · exact absurd (Prod.mk.inj hq).1 (by decide)
    obtain ⟨v, hv, hvname, hvtree⟩ := List.exists_of_forall₂ hdenotes _ hq
    have hfields : v.1 = f.partsName := by
      have := (hknown v hv).1
      rw [← hvname] at this ⊢
      simpa using this
    obtain ⟨as, has⟩ := (hknown v hv).2 hfields
    exact not_strayInField_of_asItems hpart hvtree has

/-- A declaration is decoded from the members of an object only where it has no stray key. -/
theorem not_stray_object {qs : List (String × Tree)} (hqs : Named ms qs) {k : Kind}
    {others : List (String × Json)} (hruns : Runs Adds (none, []) qs (some k, others))
    {d : Declaration} (hd : k.decode (.object others.reverse) = .ok d) :
    ¬ StrayInDeclaration (.object ms) := by
  obtain ⟨hnodup, ⟨_, ⟨token, rfl, hspelled⟩, hkind⟩, hknown, hfields⟩ := members_of_decode hruns hd
  rintro (hstray | ⟨⟨hmember, ht⟩ | _, hstray⟩)
  · refine not_strayKey (names_of_named hqs) hnodup (fun n hn => ?_) hstray
    have admitted : n ∈ ["kind", "name", "attrs"] ∨ n = k.partsName := by
      simpa [or_assoc] using hknown n hn
    refine admitted.imp_right fun hn => ⟨k, token, hspelled, (hasMember_iff hqs).2 hkind, hn⟩
  · exact hfields _ ((hasMember_iff hqs).1 hmember) _ ht hstray

/-- The same for the items of an array behind the kind. -/
theorem not_stray_array {kind : Tree} {ts : List Tree} {vs : List Json}
    (hvs : List.Forall₂ Tree.Denotes ts vs) {k : Kind} {d : Declaration}
    (hd : k.decode (.array vs) = .ok d) : ¬ StrayInDeclaration (.array (kind :: ts)) := by
  rintro (_ | ⟨_ | ht, hstray⟩)
  obtain _ | ⟨-, _ | ⟨-, _ | ⟨hparts, -⟩⟩⟩ := hvs
  obtain ⟨α, f, -, hpart, r, hr⟩ := form_of_kind hd
  obtain ⟨as, has⟩ := Form.parts_of_decode hr
  exact not_strayInField_of_asItems hpart hparts has _ ht hstray

/-- What was read can only be decoded where there is no stray key. -/
def Tidy (t : Tree) (r : Kind × Json) : Prop :=
  ∀ d, r.1.decode r.2 = .ok d → ¬ StrayInDeclaration t

theorem tracks_readItems {ps : List (Tree × List Char)} (hps : ∀ p ∈ ps, p.1.Spelled p.2)
    (htext : Lists ']' (ps.map (·.2)) cs) :
    Tracks (do let r ← readItems n; endItems; return r) cs (Tidy (.array (ps.map (·.1)))) := by
  intro rest r rest' hrest hok
  obtain ⟨r, _, hread, hend⟩ := ok_of_bind hok
  unfold readItems at hread
  cases ps with
  | nil =>
      rw [bind_of_ok (item?_none (.first htext) rest)] at hread
      cases hread
  | cons p ps =>
      obtain ⟨hp, hps⟩ := List.forall_mem_cons.1 hps
      have kind : TracksItem Kind.read (fun t k => IsKind k t) p := ⟨hp.opens, Kind.tracks_read hp⟩
      have each : ∀ p ∈ ps, TracksItem (value n) Tree.Denotes p :=
        fun p hp => ⟨(hps p hp).opens, tracks_value n (hps p hp)⟩
      obtain ⟨_, _, hkind, hread⟩ := ok_of_bind hread
      obtain ⟨k, behind, rfl, -, hbehind, rfl⟩ :=
        item?_some ((passes_stringFor _).bind _) kind (.first htext) hkind
      dsimp only at hread
      rw [bind_of_ok get_apply] at hread
      obtain ⟨vs, _, hrounds, hread⟩ := ok_of_bind hread
      obtain ⟨hvs, rfl⟩ := itemRounds_ok (passes_value n) each (.more hbehind) hrounds
      cases hread
      rw [bind_of_ok (endItems_bracket rest)] at hend
      cases hend
      exact ⟨fun d hd => not_stray_array hvs hd, rfl⟩

theorem tracks_readMembers {ps : List ((List Char × Tree) × (List Char × List Char))}
    (hnames : ∀ p ∈ ps, SpelledName p.1.1 p.2.1) (hvalues : ∀ p ∈ ps, p.1.2.Spelled p.2.2)
    (htext : Lists '\x7d' (ps.map fun p => p.2.1 ++ p.2.2) cs) :
    Tracks (readMembers n) cs (Tidy (.object (ps.map (·.1)))) := by
  intro rest r rest' hrest hok
  unfold readMembers at hok
  rw [bind_of_ok get_apply] at hok
  obtain ⟨⟨kind, others⟩, _, hrounds, hend⟩ := ok_of_bind hok
  have each : ∀ p ∈ ps, TracksMember (readMember n) Adds p :=
    fun p hp => ⟨hnames p hp, fun _ _ _ hw => tracks_readMember hw (hvalues p hp)⟩
  obtain ⟨qs, hqs, hruns, rfl⟩ := memberRounds_ok each (.first htext) hrounds
  cases kind with
  | none => cases hend
  | some k =>
      cases hend
      exact ⟨fun d hd => not_stray_object hqs hruns hd, rfl⟩

theorem tracks_read (h : t.Spelled cs) :
    Tracks (Declaration.read n) cs fun _ => ¬ StrayInDeclaration t := by
  intro rest d rest' hrest hok
  unfold Declaration.read at hok
  obtain ⟨r, _, hread, hend⟩ := ok_of_bind hok
  have tidy : Tracks (structured n declarationWanted readItems readMembers) cs (Tidy t) := by
    refine tracks_structured ?_ ?_ h
    · rintro n ps body rfl hps htext
      exact tracks_readItems hps htext
    · rintro n ps body rfl hnames hvalues htext
      exact tracks_readMembers hnames hvalues htext
  obtain ⟨htidy, rfl⟩ := tidy hrest hread
  obtain ⟨hd, rfl⟩ := ok_of_lift hend
  exact ⟨htidy d hd, rfl⟩

theorem tracks_sequence_read (h : t.Spelled cs) :
    Tracks (Reader.sequence n Declaration.read) cs fun _ =>
      ∃ ts, t = .array ts ∧ ∀ t ∈ ts, ¬ StrayInDeclaration t := by
  have each (n : Nat) (t : Tree) (cs : List Char) (h : t.Spelled cs) :
      Tracks (Declaration.read n) cs fun _ => ¬ StrayInDeclaration t := tracks_read h
  refine (tracks_sequence (fun n => (passes_structured _ _ _).bind _) each h).imp ?_
  rintro ds ⟨ts, rfl, hts⟩
  exact ⟨ts, rfl, fun t ht => (List.exists_of_forall₂ hts t ht).elim fun _ h => h.2⟩

end Declaration

/-! ## Documents -/

namespace Document

variable {n : Nat} {t : Tree}

def Seen (d : DocumentDraft) (n : String) : Prop :=
  n = "schema_version" ∧ d.version.isSome ∨ n = "decls" ∧ d.decls.isSome

/-- What a member that is read adds to a document. -/
inductive Adds (d : DocumentDraft) : String × Tree → DocumentDraft → Prop
  | version {t : Tree} {s : String} (hd : d.version = none) :
      Adds d ("schema_version", t) { d with version := some s }
  | decls {ts : List Tree} {ds : List Declaration} (hd : d.decls = none)
      (h : ∀ t ∈ ts, ¬ StrayInDeclaration t) :
      Adds d ("decls", .array ts) { d with decls := some ds }

theorem Adds.once {d e : DocumentDraft} {q : String × Tree} (h : Adds d q e) :
    ¬ Seen d q.1 ∧ Seen e q.1 ∧ ∀ n, Seen d n → Seen e n := by
  cases h with
  | version hd => simp +contextual [Seen, hd]
  | decls hd _ => simp +contextual [Seen, hd]

theorem Adds.known {d e : DocumentDraft} {q : String × Tree} (h : Adds d q e) :
    q.1 ∈ fieldNames ∧
      ∀ ts, q = ("decls", .array ts) → ∀ t ∈ ts, ¬ StrayInDeclaration t := by
  cases h with
  | version _ => simp [fieldNames]
  | decls _ h =>
      refine ⟨by simp [fieldNames], ?_⟩
      rintro ts ⟨⟩
      exact h

theorem tracks_readMember {d : DocumentDraft} {name : String} {vs : List Char} (hw : IsGap w)
    (h : t.Spelled vs) :
    Tracks (readMember n d name) (w ++ [':'] ++ vs) (Adds d (name, t)) := by
  unfold readMember
  refine .ite (fun hname => ?_) fun _ => .ite (fun hname => ?_) fun _ => ?_
  · subst hname
    cases hd : d.version with
    | some s => exact .of_error fun _ _ => nofun
    | none => exact .bind (reads_colon hw) ((tracks_stringFor _ h).bind_pure fun _ _ => .version hd)
  · subst hname
    cases hd : d.decls with
    | some ds => exact .of_error fun _ _ => nofun
    | none =>
        refine .bind (reads_colon hw) ((Declaration.tracks_sequence_read h).bind_pure ?_)
        rintro ds ⟨ts, rfl, hts⟩
        exact .decls hd hts
  · exact .of_error fun _ _ => nofun

theorem finish_ok {d : DocumentDraft} {rest rest' : Symbols} {r : Document}
    (hok : finish d (some '\x7d' :: rest) = .ok (r, rest')) : rest' = rest := by
  obtain ⟨_ | version, _ | decls⟩ := d
  · cases hok
  · cases hok
  · cases hok
  · cases hok
    rfl

theorem tracks_readMembers {ps : List ((List Char × Tree) × (List Char × List Char))}
    (hnames : ∀ p ∈ ps, SpelledName p.1.1 p.2.1) (hvalues : ∀ p ∈ ps, p.1.2.Spelled p.2.2)
    (htext : Lists '\x7d' (ps.map fun p => p.2.1 ++ p.2.2) cs) :
    Tracks (readMembers n) cs fun _ => ¬ StrayInDocument (.object (ps.map (·.1))) := by
  intro rest r rest' _ hok
  unfold readMembers at hok
  rw [bind_of_ok get_apply] at hok
  obtain ⟨d, _, hrounds, hend⟩ := ok_of_bind hok
  have each : ∀ p ∈ ps, TracksMember (readMember n) Adds p :=
    fun p hp => ⟨hnames p hp, fun _ _ _ hw => tracks_readMember hw (hvalues p hp)⟩
  obtain ⟨qs, hqs, hruns, rfl⟩ := memberRounds_ok each (.first htext) hrounds
  refine ⟨?_, finish_ok hend⟩
  have distinct := nodup_of_runs hruns fun _ _ _ => Adds.once
  have known := forall_of_runs hruns fun _ _ _ => Adds.known
  rintro (hstray | ⟨⟨hmember, ht⟩ | _, hstray⟩)
  · refine not_strayKey (names_of_named hqs) distinct.1 ?_ hstray
    exact List.forall_mem_map.2 fun q hq => (known q hq).1
  · exact (known _ ((hasMember_iff hqs).1 hmember)).2 _ rfl _ ht hstray

theorem tracks_readItems {ps : List (Tree × List Char)} (hps : ∀ p ∈ ps, p.1.Spelled p.2)
    (htext : Lists ']' (ps.map (·.2)) cs) :
    Tracks (do let r ← readItems n; endItems; return r) cs
      fun _ => ¬ StrayInDocument (.array (ps.map (·.1))) := by
  intro rest r rest' hrest hok
  obtain ⟨r, _, hread, hend⟩ := ok_of_bind hok
  unfold readItems at hread
  cases ps with
  | nil =>
      rw [bind_of_ok (item?_none (.first htext) rest)] at hread
      cases hread
  | cons p ps =>
      obtain ⟨hp, hps⟩ := List.forall_mem_cons.1 hps
      obtain ⟨_, _, hversion, hread⟩ := ok_of_bind hread
      obtain ⟨version, behind, rfl, -, hbehind, rfl⟩ :=
        item?_some (R := fun _ _ => True) (passes_stringFor _)
          ⟨hp.opens, (tracks_stringFor _ hp).imp fun _ _ => trivial⟩ (.first htext) hversion
      dsimp only at hread
      cases ps with
      | nil =>
          rw [bind_of_ok (item?_none (.more hbehind) rest)] at hread
          cases hread
      | cons p' ps =>
          obtain ⟨hp', -⟩ := List.forall_mem_cons.1 hps
          obtain ⟨_, _, hdecls, hread⟩ := ok_of_bind hread
          obtain ⟨decls, behind, rfl, ⟨ts, hts, htidy⟩, hbehind, rfl⟩ :=
            item?_some (R := fun t _ => ∃ ts, t = .array ts ∧ ∀ t ∈ ts, ¬ StrayInDeclaration t)
              (passes_sequence _) ⟨hp'.opens, Declaration.tracks_sequence_read hp'⟩
              (.more hbehind) hdecls
          cases hread
          obtain ⟨⟨⟩, _, hclose, hdone⟩ := ok_of_bind hend
          obtain rfl := endItems_ok hbehind hclose
          cases hdone
          refine ⟨?_, rfl⟩
          rintro (_ | ⟨hdecl, hstray⟩)
          rw [List.map_cons, List.map_cons, hts] at hdecl
          cases hdecl with
          | item ht => exact htidy _ ht hstray

/-- A document is read only where it has no stray key. -/
theorem tracks_read (h : t.Spelled cs) : Tracks read cs fun _ => ¬ StrayInDocument t := by
  refine tracks_structured ?_ ?_ h
  · rintro n ps body rfl hps htext
    exact tracks_readItems hps htext
  · rintro n ps body rfl hnames hvalues htext
    exact tracks_readMembers hnames hvalues htext

end Document

/-- A JSON text in which an object has a stray key, in the place of the document, of a declaration
or of a field, is not loaded: reading it is what fails, whatever else is wrong with the document. -/
theorem stray_key_refused {t : Tree} {text : String} (ht : t.SpelledText text)
    (h : StrayInDocument t) :
    ∃ f, ofDocument text = .error (.document f) ∧ (Defect.document f).code = .parseError := by
  cases hparse : Document.parse text with
  | ok d =>
      have tidy : ¬ StrayInDocument t := Tracks.run (P := fun _ => ¬ StrayInDocument t)
        (fun _ => Document.tracks_read) ht hparse
      exact absurd h tidy
  | error f =>
      refine ⟨f, ?_, rfl⟩
      unfold ofDocument
      rw [hparse]
      rfl

/-- The name `name`, with an escape for its last letter. -/
def escapedName : List Char :=
  "\"nam\\u0065\"".toList

/-- A field that is named twice. -/
def strayField : Tree :=
  .object [(printString "name", .string (printString "id")),
    (escapedName, .string (printString "key"))]

/-- A record with this field; its name is no identifier. -/
def strayRecord : Tree :=
  .object [(printString "fields", .array [strayField]),
    (printString "name", .string (printString "A b")),
    (printString "kind", .string (printString "record"))]

/-- A document with this record; its version is another one. -/
def strayDocument : Tree :=
  .object [(printString "schema_version", .string (printString "2")),
    (printString "decls", .array [strayRecord])]

/-- A text of this document. -/
def strayText : String :=
  "\x7b\"schema_version\":\"2\",\"decls\":[\x7b\"fields\":[\x7b\"name\":\"id\"," ++
    "\"nam\\u0065\":\"key\"\x7d],\"name\":\"A b\",\"kind\":\"record\"\x7d]\x7d"

theorem spellsString_escapedName : SpellsString "name" escapedName := by
  have plain : ∀ c ∈ ['n', 'a', 'm'], SpellsChar c [c] := by
    have within : ∀ c ∈ ['n', 'a', 'm'], 0x20 ≤ c.toNat ∧ c ≠ '"' ∧ c ≠ '\\' := by simp
    exact fun c hc => .plain (within c hc).1 (within c hc).2.1 (within c hc).2.2
  have e : SpellsChar 'e' ['\\', 'u', '0', '0', '6', '5'] :=
    .digits ⟨rfl, [0, 0, 6, 5], by decide, rfl⟩
  have name : List.Forall₂ SpellsChar "name".toList
      [['n'], ['a'], ['m'], ['\\', 'u', '0', '0', '6', '5']] :=
    .cons (plain 'n' (by decide)) (.cons (plain 'a' (by decide)) (.cons (plain 'm' (by decide))
      (.cons e .nil)))
  exact .quoted name

theorem strayText_spelled : strayDocument.SpelledText strayText := by
  have text (s : String) : Tree.Spelled (.string (printString s)) (printString s) :=
    .string isGap_nil (spellsString_printString s).isString
  have named (s : String) : SpelledName (printString s) (printString s ++ [':']) :=
    .mk isGap_nil (spellsString_printString s).isString isGap_nil
  have escaped : SpelledName escapedName (escapedName ++ [':']) :=
    .mk isGap_nil spellsString_escapedName.isString isGap_nil
  have field := @Tree.Spelled.object [] _
    [((printString "name", .string (printString "id")), (_, _)),
      ((escapedName, .string (printString "key")), (_, _))] isGap_nil
    (List.forall_mem_cons.2 ⟨named "name", List.forall_mem_singleton.2 escaped⟩)
    (List.forall_mem_cons.2 ⟨text "id", List.forall_mem_singleton.2 (text "key")⟩)
    (.cons (.cons isGap_nil (.nil isGap_nil)))
  have fields := @Tree.Spelled.array [] _ [(_, _)] isGap_nil
    (List.forall_mem_singleton.2 field) (.cons (.nil isGap_nil))
  have record := @Tree.Spelled.object [] _
    [((printString "fields", _), (_, _)),
      ((printString "name", .string (printString "A b")), (_, _)),
      ((printString "kind", .string (printString "record")), (_, _))] isGap_nil
    (List.forall_mem_cons.2 ⟨named "fields", List.forall_mem_cons.2 ⟨named "name",
      List.forall_mem_singleton.2 (named "kind")⟩⟩)
    (List.forall_mem_cons.2 ⟨fields, List.forall_mem_cons.2 ⟨text "A b",
      List.forall_mem_singleton.2 (text "record")⟩⟩)
    (.cons (.cons isGap_nil (.cons isGap_nil (.nil isGap_nil))))
  have decls := @Tree.Spelled.array [] _ [(_, _)] isGap_nil
    (List.forall_mem_singleton.2 record) (.cons (.nil isGap_nil))
  have document := @Tree.Spelled.object [] _
    [((printString "schema_version", .string (printString "2")), (_, _)),
      ((printString "decls", _), (_, _))] isGap_nil
    (List.forall_mem_cons.2 ⟨named "schema_version", List.forall_mem_singleton.2 (named "decls")⟩)
    (List.forall_mem_cons.2 ⟨text "2", List.forall_mem_singleton.2 decls⟩)
    (.cons (.cons isGap_nil (.nil isGap_nil)))
  exact ⟨_, [], document, isGap_nil, by decide +kernel⟩

theorem strayInDocument_strayDocument : StrayInDocument strayDocument := by
  have twice : StrayKey (· ∈ ["name", "attrs"])
      [(printString "name", .string (printString "id")),
        (escapedName, .string (printString "key"))] :=
    .repeated (.refl _) (spellsString_printString "name") spellsString_escapedName
  have field : FieldOf strayRecord strayField :=
    .member ⟨_, spellsString_printString "fields", List.mem_cons_self⟩ List.mem_cons_self
  have decl : DeclarationOf strayDocument strayRecord :=
    .member ⟨_, spellsString_printString "decls", .tail _ List.mem_cons_self⟩ List.mem_cons_self
  exact .declaration decl (.field field (.object twice))

theorem strayText_refused : strayDocument.SpelledText strayText ∧ StrayInDocument strayDocument ∧
    ∃ f, ofDocument strayText = .error (.document f) ∧ (Defect.document f).code = .parseError :=
  ⟨strayText_spelled, strayInDocument_strayDocument,
    stray_key_refused strayText_spelled strayInDocument_strayDocument⟩

end NodeIdGen.Schema
