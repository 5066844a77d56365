import NodeIdGen.Proofs.Json.Tokens

/-!
# Readers keep in step with the tree of a text

A reader that does not fail on a text of the grammar has taken exactly that text, part by part, so
what it gives fits the tree of the text: a value denotes it, and of an object each member was handed
on under the name that its token stands for. Nothing is said here of when a reader fails.
-/

namespace NodeIdGen.Json

open NodeIdGen.Json.Reader

variable {α γ : Type} {w cs : List Char}

/-! ## What follows a value -/

theorem ends_cons {c : Char} (hc : c ∈ otherMarks) (rest : Symbols) : Ends (some c :: rest) := by
  have other : ∀ c ∈ otherMarks, c.isDigit = false ∧ c ≠ '.' ∧ c ≠ 'e' ∧ c ≠ 'E' :=
    List.forall_iff_forall_mem.1 (by decide)
  obtain ⟨hdigit, hpoint, hsmall, hcapital⟩ := other c hc
  constructor <;> simp [atDigit, digit?, atChar, *]

theorem ends_gap (hw : IsGap w) {rest : Symbols} (h : Ends rest) : Ends (w.map some ++ rest) := by
  cases w with
  | nil => exact h
  | cons c w =>
      have space : ∀ c ∈ [' ', '\n', '\t', '\r'], c ∈ otherMarks :=
        List.forall_iff_forall_mem.1 (by decide)
      exact ends_cons (space c (hw c List.mem_cons_self)) _

theorem Follows.ends {close : Char} (hclose : close ∈ otherMarks) {ps : List (List Char)}
    (h : Follows close ps cs) (rest : Symbols) : Ends (cs.map some ++ rest) := by
  cases h with
  | nil hw =>
      rw [List.map_append, List.append_assoc]
      exact ends_gap hw (ends_cons hclose _)
  | cons hw h =>
      rw [List.map_append, List.append_assoc]
      exact ends_gap hw (ends_cons (by decide) _)

/-! ## Arrays -/

section Arrays

variable {item : Reader α} {p : γ × List Char} {ps : List (γ × List Char)} {R : γ → α → Prop}
  {as : List α} {rest rest' : Symbols} {first : Bool}

/-- What is known of each item: its text starts like a value, and the reader keeps to it. -/
abbrev TracksItem (item : Reader α) (R : γ → α → Prop) (p : γ × List Char) : Prop :=
  Opens p.2 ∧ Tracks item p.2 (R p.1)

theorem itemRounds_ok (hitem : Passes item) (h : ∀ p ∈ ps, TracksItem item R p)
    (htext : Awaits ']' first (ps.map (·.2)) cs) {n : Nat}
    (hok : itemRounds item n first (cs.map some ++ rest) = .ok (as, rest')) :
    List.Forall₂ R (ps.map (·.1)) as ∧ rest' = some ']' :: rest := by
  induction ps generalizing cs n first as rest' with
  | nil =>
      cases n with
      | zero => cases hok
      | succ n =>
          unfold itemRounds at hok
          rw [bind_of_ok (nextItem_none htext rest)] at hok
          cases hok
          exact ⟨.nil, rfl⟩
  | cons p ps ih =>
      obtain ⟨hp, hps⟩ := List.forall_mem_cons.1 h
      cases n with
      | zero => cases hok
      | succ n =>
          obtain ⟨behind, hbehind, hnext⟩ := nextItem_some hp.1 htext
          unfold itemRounds at hok
          rw [bind_of_ok (hnext rest), if_pos rfl] at hok
          obtain ⟨a, _, ha, hok⟩ := ok_of_bind hok
          obtain ⟨hR, rfl⟩ := hp.2 (hbehind.ends (by decide) rest) ((hitem _).symm.trans ha)
          obtain ⟨as, _, has, hok⟩ := ok_of_bind hok
          obtain ⟨hall, rfl⟩ := ih hps (.more hbehind) has
          cases hok
          exact ⟨.cons hR hall, rfl⟩

theorem item?_none (htext : Awaits ']' first [] cs) (rest : Symbols) :
    item? first item (cs.map some ++ rest) = .ok (none, some ']' :: rest) := by
  unfold item?
  rw [bind_of_ok (nextItem_none htext rest)]
  rfl

theorem item?_some (hitem : Passes item) (hp : TracksItem item R p)
    (htext : Awaits ']' first (p.2 :: ps.map (·.2)) cs) {r : Option α}
    (hok : item? first item (cs.map some ++ rest) = .ok (r, rest')) :
    ∃ a behind, r = some a ∧ R p.1 a ∧ Follows ']' (ps.map (·.2)) behind ∧
      rest' = behind.map some ++ rest := by
  obtain ⟨behind, hbehind, hnext⟩ := nextItem_some hp.1 htext
  unfold item? at hok
  rw [bind_of_ok (hnext rest), if_pos rfl, map_eq_pure_bind] at hok
  obtain ⟨a, _, ha, hend⟩ := ok_of_bind hok
  obtain ⟨hR, rfl⟩ := hp.2 (hbehind.ends (by decide) rest) ((hitem _).symm.trans ha)
  cases hend
  exact ⟨a, behind, rfl, hR, hbehind, rfl⟩

/-- Where the closing bracket is wanted, no further item may follow. -/
theorem endItems_ok {qs : List (List Char)} (htext : Follows ']' qs cs)
    (hok : endItems (cs.map some ++ rest) = .ok ((), rest')) : rest' = rest := by
  have passes : Passes endItems := passes_peek _
  cases htext with
  | nil hw =>
      rw [passes.gap hw] at hok
      unfold endItems at hok
      rw [peek_bind (by decide)] at hok
      cases hok
      rfl
  | cons hw _ =>
      rw [passes.gap hw] at hok
      unfold endItems at hok
      rw [peek_bind (by decide)] at hok
      dsimp only at hok
      rw [if_neg (by decide), if_pos rfl, bind_of_ok set_apply] at hok
      obtain ⟨_, _, -, hok⟩ := ok_of_bind hok
      cases hok

theorem tracks_items (hitem : Passes item) (h : ∀ p ∈ ps, TracksItem item R p)
    (htext : Lists ']' (ps.map (·.2)) cs) :
    Tracks (items item) cs (List.Forall₂ R (ps.map (·.1))) := by
  intro rest as rest' _ hok
  unfold items at hok
  rw [bind_of_ok get_apply] at hok
  obtain ⟨as, _, has, hok⟩ := ok_of_bind hok
  obtain ⟨hall, rfl⟩ := itemRounds_ok hitem h (.first htext) has
  rw [bind_of_ok (endItems_bracket rest)] at hok
  cases hok
  exact ⟨hall, rfl⟩

end Arrays

/-! ## Objects -/

section Objects

variable {σ : Type} {rest rest' : Symbols} {token : List Char} {first : Bool}

theorem nextName_ok {ns vs : List Char} {ps : List (List Char)} (hname : SpelledName token ns)
    (htext : Awaits '\x7d' first ((ns ++ vs) :: ps) cs) {r : Option String}
    (hok : nextName first (cs.map some ++ rest) = .ok (r, rest')) :
    ∃ name w behind, r = some name ∧ SpellsString name token ∧ IsGap w ∧
      Follows '\x7d' ps behind ∧
      rest' = (w ++ [':'] ++ vs).map some ++ (behind.map some ++ rest) := by
  cases hname with
  | @mk w w' hw htoken hw' =>
      cases htoken with
      | quoted hparts =>
          obtain ⟨behind, hbehind, hnext⟩ := nextName_some hw htext
          rw [hnext rest, map_eq_pure_bind] at hok
          obtain ⟨name, _, hname, hend⟩ := ok_of_bind hok
          obtain ⟨hspelled, rfl⟩ := string_ok hparts hname
          cases hend
          exact ⟨name, w', behind, rfl, hspelled, hw', hbehind, rfl⟩

/-- A state goes through steps, one for each part. -/
inductive Runs (R : σ → γ → σ → Prop) : σ → List γ → σ → Prop
  | nil (s : σ) : Runs R s [] s
  | cons {s t u : σ} {m : γ} {ms : List γ} (h : R s m t) (hs : Runs R t ms u) :
      Runs R s (m :: ms) u

/-- The members under the names that their tokens stand for. -/
def Named (ms : List (List Char × Tree)) (qs : List (String × Tree)) : Prop :=
  List.Forall₂ (fun m q => SpellsString q.1 m.1 ∧ m.2 = q.2) ms qs

variable {member : σ → String → Reader σ} {R : σ → String × Tree → σ → Prop}
  {ps : List ((List Char × Tree) × (List Char × List Char))} {s u : σ}

/-- What is known of each member: behind its name, the reader keeps to the colon and the value,
whatever was read before. -/
abbrev TracksMember (member : σ → String → Reader σ) (R : σ → String × Tree → σ → Prop)
    (p : (List Char × Tree) × (List Char × List Char)) : Prop :=
  SpelledName p.1.1 p.2.1 ∧ ∀ s name w, IsGap w →
    Tracks (member s name) (w ++ [':'] ++ p.2.2) (R s (name, p.1.2))

theorem memberRounds_ok (h : ∀ p ∈ ps, TracksMember member R p)
    (htext : Awaits '\x7d' first (ps.map fun p => p.2.1 ++ p.2.2) cs) {n : Nat}
    (hok : memberRounds member n first s (cs.map some ++ rest) = .ok (u, rest')) :
    ∃ qs, Named (ps.map (·.1)) qs ∧ Runs R s qs u ∧ rest' = some '\x7d' :: rest := by
  induction ps generalizing cs n first s with
  | nil =>
      cases n with
      | zero => cases hok
      | succ n =>
          unfold memberRounds at hok
          rw [bind_of_ok (nextName_none htext rest)] at hok
          cases hok
          exact ⟨[], .nil, .nil _, rfl⟩
  | cons p ps ih =>
      obtain ⟨⟨hname, hmember⟩, hps⟩ := List.forall_mem_cons.1 h
      cases n with
      | zero => cases hok
      | succ n =>
          unfold memberRounds at hok
          obtain ⟨_, _, hfound, hok⟩ := ok_of_bind hok
          obtain ⟨name, w, behind, rfl, hspelled, hw, hbehind, rfl⟩ :=
            nextName_ok hname htext hfound
          obtain ⟨s', _, hs', hmore⟩ := ok_of_bind hok
          obtain ⟨hR, rfl⟩ := hmember s name w hw (hbehind.ends (by decide) rest) hs'
          obtain ⟨qs, hqs, hruns, rfl⟩ := ih hps (.more hbehind) hmore
          exact ⟨(name, p.1.2) :: qs, .cons ⟨hspelled, rfl⟩ hqs, .cons hR hruns, rfl⟩

theorem tracks_members (h : ∀ p ∈ ps, TracksMember member R p)
    (htext : Lists '\x7d' (ps.map fun p => p.2.1 ++ p.2.2) cs) :
    Tracks (members member s) cs fun u => ∃ qs, Named (ps.map (·.1)) qs ∧ Runs R s qs u := by
  intro rest u rest' _ hok
  unfold members at hok
  rw [bind_of_ok get_apply] at hok
  obtain ⟨u, _, hu, hok⟩ := ok_of_bind hok
  obtain ⟨qs, hqs, hruns, rfl⟩ := memberRounds_ok h (.first htext) hu
  cases hok
  exact ⟨⟨qs, hqs, hruns⟩, rfl⟩

end Objects

/-! ## Values -/

theorem isSpace_of_not_mem {c : Char} (hc : c ∉ otherMarks) : isSpace (some c) = false := by
  simp only [otherMarks, List.mem_cons, not_or] at hc
  simp [isSpace, hc]

theorem Tree.Spelled.opens {t : Tree} (h : t.Spelled cs) : Opens cs := by
  cases h with
  | scalar hw h =>
      obtain ⟨c, tail, rfl, hc, -⟩ := tracks_scalar h
      refine .mk hw (isSpace_of_not_mem hc) ?_
      rintro rfl
      exact hc (by decide)
  | string hw h =>
      cases h with
      | quoted _ => exact .mk hw (by decide) (by decide)
  | array hw _ _ => exact .mk hw (by decide) (by decide)
  | object hw _ _ _ => exact .mk hw (by decide) (by decide)

/-- A member of a tree under its name, and what is read of it. -/
def DenotesMember (q : String × Tree) (v : String × Json) : Prop :=
  q.1 = v.1 ∧ q.2.Denotes v.2

/-- One more member is put in front of those that were read. -/
def Gathers (s : List (String × Json)) (q : String × Tree) (t : List (String × Json)) : Prop :=
  ∃ v, DenotesMember q v ∧ t = v :: s

theorem denotes_of_gathers {s u : List (String × Json)} {qs : List (String × Tree)}
    (h : Runs Gathers s qs u) :
    ∃ vs, u = vs.reverse ++ s ∧ List.Forall₂ DenotesMember qs vs := by
  induction h with
  | nil s => exact ⟨[], rfl, .nil⟩
  | cons hq _ ih =>
      obtain ⟨v, hv, rfl⟩ := hq
      obtain ⟨vs, rfl, hvs⟩ := ih
      exact ⟨v :: vs, by simp, .cons hv hvs⟩

theorem denotes_object {ms : List (List Char × Tree)} {qs : List (String × Tree)}
    {vs : List (String × Json)} (hqs : Named ms qs)
    (hvs : List.Forall₂ DenotesMember qs vs) :
    Tree.Denotes (.object ms) (.object vs) := by
  have both : List.Forall₂ (fun m v => SpellsString v.1 m.1 ∧ Tree.Denotes m.2 v.2) ms vs := by
    induction hqs generalizing vs with
    | nil =>
        cases hvs
        exact .nil
    | cons hm _ ih =>
        cases hvs with
        | cons hv hvs => exact .cons ⟨hv.1 ▸ hm.1, hm.2 ▸ hv.2⟩ (ih hvs)
  exact .object (both.imp fun _ _ h => h.1) (both.imp fun _ _ h => h.2)

theorem tracks_value (n : Nat) {t : Tree} (h : t.Spelled cs) : Tracks (value n) cs t.Denotes := by
  induction n generalizing t cs with
  | zero => exact .bad
  | succ n ih =>
      cases h with
      | @scalar w cs hw h =>
          refine .behind ?_ (passes_value _) hw
          obtain ⟨c, tail, rfl, hc, hscalar⟩ := tracks_scalar h
          intro rest v rest' hrest hok
          unfold value at hok
          rw [peek_bind (isSpace_of_not_mem hc)] at hok
          dsimp only at hok
          rw [if_neg (by rintro ⟨⟩; exact hc (by decide)),
            if_neg (by rintro ⟨⟩; exact hc (by decide))] at hok
          exact (hscalar hrest hok).imp_left fun _ => .scalar _ _
      | string hw h =>
          refine .behind ?_ (passes_value _) hw
          cases h with
          | quoted hparts =>
              intro rest v rest' hrest hok
              unfold value at hok
              rw [peek_bind (by decide)] at hok
              exact Tracks.bind (reads_skipOne '"') ((tracks_string hparts).map fun _ => .string)
                hrest hok
      | array hw hitems hlist =>
          refine .behind ?_ (passes_value _) hw
          intro rest v rest' hrest hok
          unfold value at hok
          rw [peek_bind (by decide)] at hok
          dsimp only at hok
          rw [if_pos rfl] at hok
          split at hok
          · cases hok
          · rw [bind_of_ok set_apply] at hok
            have each : ∀ p ∈ _, TracksItem (value n) Tree.Denotes p :=
              fun p hp => ⟨(hitems p hp).opens, ih (hitems p hp)⟩
            exact (tracks_items (passes_value n) each hlist).map (fun _ => .array) hrest hok
      | object hw hnames hvalues hlist =>
          refine .behind ?_ (passes_value _) hw
          intro rest v rest' hrest hok
          unfold value at hok
          rw [peek_bind (by decide)] at hok
          dsimp only at hok
          rw [if_neg (by decide), if_pos rfl] at hok
          split at hok
          · cases hok
          · rw [bind_of_ok set_apply] at hok
            refine (tracks_members (R := Gathers) (fun p hp => ⟨hnames p hp, ?_⟩) hlist).bind_pure
              ?_ hrest hok
            · intro ms name w hw
              exact .bind (reads_colon hw)
                ((ih (hvalues p hp)).bind_pure fun v hv => ⟨(name, v), ⟨rfl, hv⟩, rfl⟩)
            · rintro us ⟨qs, hqs, hruns⟩
              obtain ⟨vs, rfl, hvs⟩ := denotes_of_gathers hruns
              rw [List.append_nil, List.reverse_reverse]
              exact denotes_object hqs hvs

/-! ## Parts of structures -/

section Structures

variable {P : α → Prop} {t : Tree} {n : Nat}

theorem wrongType_ne_ok (expected : String) (text : Symbols) (p : α × Symbols) :
    wrongType expected text ≠ .ok p := by
  intro h
  unfold wrongType at h
  rw [bind_of_ok (peek_apply _)] at h
  generalize text.dropWhile isSpace = front at h
  cases front with
  | nil => cases h
  | cons s rest =>
      dsimp only at h
      split at h
      · cases h
      · split at h
        · cases h
        · obtain ⟨_, _, -, h⟩ := ok_of_bind h
          cases h

/-- A text that starts with another symbol than what is wanted is refused. -/
theorem tracks_mismatch {f : Symbols → Reader α} {expected : String} {c : Char} {w tail : List Char}
    (hw : IsGap w) (hspace : isSpace (some c) = false)
    (hf : ∀ rest, f (some c :: rest) = wrongType expected) :
    Tracks (peek >>= f) (w ++ c :: tail) P := by
  refine .behind (fun rest s rest' _ hok => ?_) (passes_peek f) hw
  rw [peek_bind hspace, hf] at hok
  exact absurd hok (wrongType_ne_ok _ _ _)

theorem tracks_stringFor (expected : String) (h : t.Spelled cs) :
    Tracks (stringFor expected) cs fun s => ∃ token, t = .string token ∧ SpellsString s token := by
  have other {c : Char} {w tail : List Char} {P : String → Prop} (hw : IsGap w)
      (hspace : isSpace (some c) = false) (hc : c ≠ '"') :
      Tracks (stringFor expected) (w ++ c :: tail) P :=
    tracks_mismatch hw hspace fun _ => if_neg (by simpa using hc)
  cases h with
  | scalar hw h =>
      obtain ⟨c, tail, rfl, hc, -⟩ := tracks_scalar h
      exact other hw (isSpace_of_not_mem hc) (by rintro rfl; exact hc (by decide))
  | string hw h =>
      cases h with
      | quoted hparts =>
          intro rest s rest' hrest hok
          rw [stringFor_quote _ hw] at hok
          exact (string_ok hparts hok).imp_left fun hs => ⟨_, rfl, hs⟩
  | array hw _ _ => exact other hw (by decide) (by decide)
  | object hw _ _ _ => exact other hw (by decide) (by decide)

theorem tracks_sequence {item : Nat → Reader α} {R : Tree → α → Prop}
    (hpasses : ∀ n, Passes (item n))
    (hitem : ∀ n t cs, t.Spelled cs → Tracks (item n) cs (R t)) (h : t.Spelled cs) :
    Tracks (Reader.sequence n item) cs fun as => ∃ ts, t = .array ts ∧ List.Forall₂ R ts as := by
  have other {c : Char} {w tail : List Char} {P : List α → Prop} (hw : IsGap w)
      (hspace : isSpace (some c) = false) (hc : c ≠ '[') :
      Tracks (Reader.sequence n item) (w ++ c :: tail) P :=
    tracks_mismatch hw hspace fun _ => if_neg (by simpa using hc)
  cases h with
  | scalar hw h =>
      obtain ⟨c, tail, rfl, hc, -⟩ := tracks_scalar h
      exact other hw (isSpace_of_not_mem hc) (by rintro rfl; exact hc (by decide))
  | string hw h =>
      cases h with
      | quoted _ => exact other hw (by decide) (by decide)
  | array hw hitems hlist =>
      refine .behind (fun rest as rest' hrest hok => ?_) (passes_sequence _) hw
      unfold Reader.sequence at hok
      rw [peek_bind (by decide)] at hok
      dsimp only at hok
      rw [if_pos rfl] at hok
      split at hok
      · cases hok
      · rw [bind_of_ok set_apply] at hok
        refine (tracks_items (hpasses _) ?_ hlist hrest hok).imp_left fun has => ⟨_, rfl, has⟩
        exact fun p hp => ⟨(hitems p hp).opens, hitem _ _ _ (hitems p hp)⟩
  | object hw _ _ _ => exact other hw (by decide) (by decide)

theorem tracks_structured {expected : String} {fromItems fromMembers : Nat → Reader α}
    (hitems : ∀ (n : Nat) (ps : List (Tree × List Char)) (body : List Char),
      t = .array (ps.map (·.1)) → (∀ p ∈ ps, p.1.Spelled p.2) → Lists ']' (ps.map (·.2)) body →
      Tracks (do let a ← fromItems n; endItems; return a) body P)
    (hmembers : ∀ (n : Nat) (ps : List ((List Char × Tree) × (List Char × List Char)))
      (body : List Char), t = .object (ps.map (·.1)) → (∀ p ∈ ps, SpelledName p.1.1 p.2.1) →
      (∀ p ∈ ps, p.1.2.Spelled p.2.2) → Lists '\x7d' (ps.map fun p => p.2.1 ++ p.2.2) body →
      Tracks (fromMembers n) body P)
    (h : t.Spelled cs) : Tracks (structured n expected fromItems fromMembers) cs P := by
  have other {c : Char} {w tail : List Char} (hw : IsGap w) (hspace : isSpace (some c) = false)
      (harray : c ≠ '[') (hobject : c ≠ '\x7b') :
      Tracks (structured n expected fromItems fromMembers) (w ++ c :: tail) P :=
    tracks_mismatch hw hspace fun _ =>
      (if_neg (by simpa using harray)).trans (if_neg (by simpa using hobject))
  cases h with
  | scalar hw h =>
      obtain ⟨c, tail, rfl, hc, -⟩ := tracks_scalar h
      exact other hw (isSpace_of_not_mem hc) (by rintro rfl; exact hc (by decide))
        (by rintro rfl; exact hc (by decide))
  | string hw h =>
      cases h with
      | quoted _ => exact other hw (by decide) (by decide) (by decide)
  | array hw hps hlist =>
      refine .behind (fun rest a rest' hrest hok => ?_) (passes_structured _ _ _) hw
      unfold structured at hok
      rw [peek_bind (by decide)] at hok
      dsimp only at hok
      rw [if_pos rfl] at hok
      split at hok
      · cases hok
      · rw [bind_of_ok set_apply] at hok
        exact hitems _ _ _ rfl hps hlist hrest hok
  | object hw hnames hvalues hlist =>
      refine .behind (fun rest a rest' hrest hok => ?_) (passes_structured _ _ _) hw
      unfold structured at hok
      rw [peek_bind (by decide)] at hok
      dsimp only at hok
      rw [if_neg (by decide), if_pos rfl] at hok
      split at hok
      · cases hok
      · rw [bind_of_ok set_apply] at hok
        exact hmembers _ _ _ rfl hnames hvalues hlist hrest hok

end Structures

/-! ## Whole texts -/

/-- What is read from a text of the grammar fits its tree. -/
theorem Tracks.run {r : Reader α} {P : α → Prop} {t : Tree} {text : String} {a : α}
    (h : ∀ cs, t.Spelled cs → Tracks r cs P) (htext : t.SpelledText text)
    (hok : Reader.run r (symbols text) = .ok a) : P a := by
  obtain ⟨cs, w, hcs, hw, heq⟩ := htext
  have symbols : symbols text = cs.map some ++ w.map some := by
    rw [symbols, heq, List.map_append]
  have ends : Ends (w.map some) := List.append_nil (w.map some) ▸ ends_gap hw ⟨rfl, rfl, rfl, rfl⟩
  unfold Reader.run StateT.run at hok
  rw [symbols] at hok
  obtain ⟨⟨b, rest⟩, hread, hend⟩ := Except.bind_ok_iff.1 hok
  dsimp only at hend
  split at hend
  · cases hend
    exact (h cs hcs ends hread).1
  · cases hend

end NodeIdGen.Json
