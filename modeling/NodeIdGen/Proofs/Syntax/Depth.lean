import NodeIdGen.Proofs.Syntax.Progress

/-!
# How deep a parser nests

The rules of the grammar are tied together by a depth, and each use of one rule by another takes
one from it. `Settles n r p q` is about one rule over two grammars, `p` over one with a depth of `n`
and `q` over a deeper one. Where the tokens that are left, weighed by 8, leave at least `r` of the
depth, it does not run out, and the deeper grammar makes no difference. Behind a token that was
read, and inside a group, they leave 8 more, and that is more than rules can pass on to each other
without reading a token.

So there are two ways to go on behind a part of a rule: one that knows nothing of the part, and one
that knows that it has read a token. The instances try the second first.

Loops run out of rounds as rules run out of depth, and with the same fault. Each round that is
followed by another one has to read a token.
-/

namespace NodeIdGen.Syntax

open NodeIdGen.Syntax.Parser

variable {α β : Type}

/-! ## How many tokens are left -/

theorem Token.count_pos (t : Token) : 0 < t.count := by
  cases t with
  | group d ts => exact Nat.lt_of_lt_of_le Nat.zero_lt_one (Nat.le_add_right 1 (countAll ts))
  | _ => exact Nat.zero_lt_one

theorem countAll_append (ts us : List Token) : countAll (ts ++ us) = countAll ts + countAll us := by
  induction ts with
  | nil => simp [countAll]
  | cons t ts ih => rw [List.cons_append, countAll, countAll, ih, Nat.add_assoc]

theorem countAll_le {ts us : List Token} (h : us <:+ ts) : countAll us ≤ countAll ts := by
  obtain ⟨front, rfl⟩ := h
  rw [countAll_append]
  exact Nat.le_add_left _ _

theorem countAll_take_le (k : Nat) (ts : List Token) : countAll (ts.take k) ≤ countAll ts := by
  conv => rhs; rw [← List.take_append_drop k ts, countAll_append]
  exact Nat.le_add_right _ _

theorem countAll_lt {ts us : List Token} (h : us <:+ ts) (hlen : us.length < ts.length) :
    countAll us < countAll ts := by
  obtain ⟨front, rfl⟩ := h
  cases front with
  | nil => exact absurd hlen (Nat.lt_irrefl _)
  | cons t front =>
      have := t.count_pos
      rw [List.cons_append, countAll, countAll_append]
      omega

/-- The tokens that are left leave `r` of a depth of `n`. -/
def State.Leaves (n r : Nat) (s : State) : Prop :=
  8 * countAll s.rest + r ≤ n

namespace State.Leaves

variable {n r : Nat} {s t : State}

theorem mono {q : Nat} (h : s.Leaves n r) (hq : q ≤ r) : s.Leaves n q :=
  Nat.le_trans (Nat.add_le_add_left hq _) h

theorem ahead (h : s.Leaves n r) (hst : s.Leads t) : t.Leaves n r := by
  have := countAll_le hst.suffix
  unfold Leaves at *
  omega

/-- Behind a token that was read there is more room. -/
theorem behind (h : s.Leaves n r) (hst : s.Leads t) (hlen : t.rest.length < s.rest.length) :
    t.Leaves n (r + 8) := by
  have := countAll_lt hst.suffix hlen
  unfold Leaves at *
  omega

/-- Inside a group there is more room. -/
theorem inside {d : Delimiter} {content after : Rest} {l : Option Delimiter} (h : s.Leaves n r)
    (hs : s.rest = .group d content :: after) : (⟨content, l⟩ : State).Leaves n (r + 8) := by
  rw [Leaves, hs, countAll, Token.count] at h
  unfold Leaves
  dsimp only
  omega

end State.Leaves

/-- In this state the first parser does not run out of depth, and the second does what it does. -/
structure Settled (s : State) (p q : Parser α) : Prop where
  same : q s = p s
  ends : p s ≠ .error .exhausted

/-- Both parsers are settled where the tokens leave `r` of a depth of `n`. -/
class Settles (n r : Nat) (p q : Parser α) : Prop where
  settled : ∀ {s : State}, s.Leaves n r → Settled s p q

/-- The same where the tokens `ts` are left. -/
structure SettlesFrom (n r : Nat) (ts : Rest) (p q : Parser α) : Prop where
  settled : ∀ {s : State}, s.rest = ts → s.Leaves n r → Settled s p q

variable {n r : Nat} {p q : Parser α} {f k : α → Parser β}

namespace Settled

variable {s : State}

theorem refl (h : p s ≠ .error .exhausted) : Settled s p p :=
  ⟨rfl, h⟩

theorem of_ok {a : α} {t : State} (h : p s = .ok (a, t)) : Settled s p p :=
  .refl fun herr => by rw [h] at herr; cases herr

/-- A sequence is settled where its first part is, and what follows it behind each of its
results. -/
theorem bind (hp : Settled s p q) (hf : ∀ {a t}, p s = .ok (a, t) → Settled t (f a) (k a)) :
    Settled s (p >>= f) (q >>= k) := by
  refine ⟨?_, fun h => ?_⟩
  · rw [bind_apply, bind_apply, hp.same]
    split
    · next a t hok => exact (hf hok).same
    · rfl
  · rcases error_of_bind h with h | ⟨a, t, hok, h⟩
    · exact hp.ends h
    · exact (hf hok).ends h

/-- Behind a look, what follows may depend on what was seen. -/
theorem look_bind {f k : Rest → Parser β} (h : Settled s (f s.rest) (k s.rest)) :
    Settled s (look >>= f) (look >>= k) :=
  ⟨h.same, h.ends⟩

theorem ite {c : Prop} [Decidable c] {p' q' : Parser α} (hp : c → Settled s p p')
    (hq : ¬ c → Settled s q q') : Settled s (if c then p else q) (if c then p' else q') := by
  split
  · next h => exact hp h
  · next h => exact hq h

end Settled

/-- With less depth there is less to settle. -/
theorem Settles.of_le {m : Nat} (h : Settles n r p q) (hm : m ≤ n) : Settles m r p q :=
  ⟨fun hs => h.settled (Nat.le_trans hs hm)⟩

theorem Settles.mono {m : Nat} (h : Settles n m p q) (hm : m ≤ r) : Settles n r p q :=
  ⟨fun hs => h.settled (hs.mono hm)⟩

/-! ## Composition -/

instance (a : α) : Settles n r (pure a : Parser α) (pure a) :=
  ⟨fun _ => .of_ok rfl⟩

instance (w : Wanted) : Settles n r (wanted w : Parser α) (wanted w) :=
  ⟨fun _ => .refl fun h => by cases h⟩

instance (text : String) : Settles n r (broken text : Parser α) (broken text) :=
  ⟨fun _ => .refl fun h => by cases h⟩

instance (text : String) : Settles n r (denied text : Parser α) (denied text) :=
  ⟨fun _ => .refl fun h => by cases h⟩

/-- Nothing has to be known of the first part but that it goes forward. -/
instance (priority := low) (p q : Parser α) (f k : α → Parser β) [Forward p] [hp : Settles n r p q]
    [hf : ∀ a, Settles n r (f a) (k a)] : Settles n r (p >>= f) (q >>= k) := by
  refine ⟨fun hs => (hp.settled hs).bind fun hok => ?_⟩
  exact (hf _).settled (hs.ahead (Forward.leads hok))

theorem State.Leaves.eight {s t : State} (hs : s.Leaves n r) (hst : s.Leads t)
    (hlen : t.rest.length < s.rest.length) : t.Leaves n 8 :=
  (hs.behind hst hlen).mono (Nat.le_add_left 8 r)

/-- Behind a part that has read a token there is more room. -/
instance (p q : Parser α) (f k : α → Parser β) [Consumes p] [Forward p] [hp : Settles n r p q]
    [hf : ∀ a, Settles n 8 (f a) (k a)] : Settles n r (p >>= f) (q >>= k) := by
  refine ⟨fun hs => (hp.settled hs).bind fun hok => ?_⟩
  exact (hf _).settled (hs.eight (Forward.leads hok) (Consumes.shorter hok))

/-- Behind a part that has found something there is more room. -/
instance (p q : Parser Bool) (f k : Bool → Parser β) [Tells p] [Forward p] [hp : Settles n r p q]
    [hyes : Settles n 8 (f true) (k true)] [hno : Settles n r (f false) (k false)] :
    Settles n r (p >>= f) (q >>= k) := by
  refine ⟨fun hs => (hp.settled hs).bind fun {found t} hok => ?_⟩
  cases found with
  | true => exact hyes.settled (hs.eight (Forward.leads hok) (Tells.shorter hok))
  | false => exact hno.settled (hs.ahead (Forward.leads hok))

/-- Where there is more room already, nothing has to be known of what was read. -/
instance (priority := high) (p q : Parser α) (f k : α → Parser β) [Forward p] [Settles n 8 p q]
    [∀ a, Settles n 8 (f a) (k a)] : Settles n 8 (p >>= f) (q >>= k) :=
  inferInstance

instance (p q : Parser α) (f : α → β) [h : Settles n r p q] : Settles n r (f <$> p) (f <$> q) := by
  refine ⟨fun hs => ?_⟩
  rw [map_eq_pure_bind, map_eq_pure_bind]
  exact (h.settled hs).bind fun _ => .of_ok rfl

instance (p q : Parser α) [Settles n r p q] : Settles n r (discard p) (discard q) :=
  inferInstanceAs (Settles n r ((fun _ => PUnit.unit) <$> p) ((fun _ => PUnit.unit) <$> q))

theorem Settles.ite {c : Prop} [Decidable c] {p q p' q' : Parser α} (hp : Settles n r p p')
    (hq : Settles n r q q') : Settles n r (if c then p else q) (if c then p' else q') :=
  ⟨fun hs => .ite (fun _ => hp.settled hs) fun _ => hq.settled hs⟩

instance (c : Prop) [Decidable c] (p q p' q' : Parser α) [hp : Settles n r p p']
    [hq : Settles n r q q'] : Settles n r (if c then p else q) (if c then p' else q') :=
  hp.ite hq

instance (priority := high) [Decidable (true = true)] (p q p' q' : Parser α) [Settles n r p p'] :
    Settles n r (if true = true then p else q) (if true = true then p' else q') := by
  rw [if_pos rfl, if_pos rfl]
  infer_instance

instance (priority := high) [Decidable (false = true)] (p q p' q' : Parser α) [Settles n r q q'] :
    Settles n r (if false = true then p else q) (if false = true then p' else q') := by
  rw [if_neg Bool.false_ne_true, if_neg Bool.false_ne_true]
  infer_instance

/-! ## Looking and single tokens -/

instance : Settles n r look look :=
  ⟨fun _ => .of_ok rfl⟩

instance (t : Rest → Bool) : Settles n r (test t) (test t) :=
  ⟨fun _ => .of_ok rfl⟩

instance (ts : Rest) : Settles n r (moveTo ts) (moveTo ts) :=
  ⟨fun _ => .of_ok rfl⟩

instance (ts : Rest) (a : α) :
    Settles n r (do moveTo ts; return a : Parser α) (do moveTo ts; return a) :=
  ⟨fun _ => .of_ok rfl⟩

instance (p q : Parser α) [h : Settles n r p q] : Settles n r (ahead? p) (ahead? q) := by
  refine ⟨fun hs => ⟨?_, fun herr => ?_⟩⟩
  · rw [ahead?_apply, ahead?_apply, (h.settled hs).same]
  · rw [ahead?_apply] at herr
    cases herr

instance (p q : Parser α) [h : Settles n r p q] : Settles n r (attempt p) (attempt q) := by
  refine ⟨fun hs => ⟨?_, fun herr => ?_⟩⟩
  · rw [attempt_apply, attempt_apply, (h.settled hs).same]
  · rw [attempt_apply] at herr
    split at herr <;> cases herr

namespace SettlesFrom

variable {ts us : Rest}

theorem of_settles (p q : Parser α) [h : Settles n r p q] : SettlesFrom n r ts p q :=
  ⟨fun _ hs => h.settled hs⟩

/-- A rule that moves by itself over at least one token. -/
theorem moveTo_bind {f k : Unit → Parser β} (h : us <:+ ts) (hlen : us.length < ts.length)
    (hf : Settles n 8 (f ()) (k ())) : SettlesFrom n r ts (moveTo us >>= f) (moveTo us >>= k) := by
  refine ⟨fun {s} hts hs => (Settled.of_ok rfl).bind fun {a t} hok => ?_⟩
  cases hok
  exact hf.settled (hs.eight ⟨hts ▸ h, id⟩ (hts ▸ hlen))

end SettlesFrom

/-- Behind a look, a parser may use what it has seen. -/
theorem Settles.of_look {f k : Rest → Parser β} (h : ∀ ts, SettlesFrom n r ts (f ts) (k ts)) :
    Settles n r (look >>= f) (look >>= k) :=
  ⟨fun {s} hs => .look_bind ((h s.rest).settled rfl hs)⟩

instance (s : String) : Settles n r (symbol s) (symbol s) := by
  refine Settles.of_look fun ts => ?_
  split <;> exact .of_settles _ _

instance (s : String) : Settles n r (symbol? s) (symbol? s) := by
  refine Settles.of_look fun ts => ?_
  split <;> exact .of_settles _ _

instance (w : String) : Settles n r (word w) (word w) := by
  refine Settles.of_look fun ts => ?_
  split <;> exact .of_settles _ _

instance (w : String) : Settles n r (word? w) (word? w) := by
  refine Settles.of_look fun ts => ?_
  split <;> exact .of_settles _ _

instance : Settles n r anyWord anyWord := by
  refine Settles.of_look fun ts => ?_
  split <;> exact .of_settles _ _

instance : Settles n r name name := by
  refine Settles.of_look fun ts => ?_
  split <;> exact .of_settles _ _

instance : Settles n r name? name? := by
  unfold name?
  infer_instance

instance : Settles n r lifetime lifetime := by
  refine Settles.of_look fun ts => ?_
  split <;> exact .of_settles _ _

instance : Settles n r lifetime? lifetime? := by
  unfold lifetime?
  infer_instance

instance : Settles n r literal literal := by
  refine Settles.of_look fun ts => ?_
  split <;> exact .of_settles _ _

/-! ## Groups -/

/-- A group is settled where its content is. -/
theorem settled_group {d : Delimiter} {s : State}
    (h : ∀ content after, s.rest = .group d content :: after →
      Settled ⟨content, s.leftover⟩ p q) :
    Settled s (group d p) (group d q) := by
  obtain ⟨ts, l⟩ := s
  cases ts with
  | nil => exact ⟨rfl, fun herr => by cases herr⟩
  | cons x after =>
      cases x with
      | group e content =>
          by_cases hd : d = e
          · subst hd
            have hcontent := h content after rfl
            refine ⟨?_, fun herr => ?_⟩
            · rw [group_apply, group_apply, hcontent.same]
            · rw [group_apply, if_pos rfl] at herr
              split at herr
              · cases herr
              · next hfault =>
                cases herr
                exact hcontent.ends hfault
          · refine ⟨?_, fun herr => ?_⟩
            · rw [group_apply, group_apply, if_neg hd, if_neg hd]
            · rw [group_apply, if_neg hd] at herr
              cases herr
      | ident _ | punct _ _ | literal _ | lifetime _ => exact ⟨rfl, fun herr => by cases herr⟩

/-- Inside a group there is more room. -/
instance (d : Delimiter) (p q : Parser α) [hp : Settles n 8 p q] :
    Settles n r (group d p) (group d q) := by
  refine ⟨fun {s} hs => settled_group fun content after hrest => ?_⟩
  exact hp.settled ((hs.inside hrest).mono (Nat.le_add_left 8 r))

instance : Settles n r anyGroup anyGroup := by
  refine Settles.of_look fun ts => ?_
  split <;> exact .of_settles _ _

instance (d : Delimiter) : Settles n r (skipGroup d) (skipGroup d) := by
  unfold skipGroup
  infer_instance

/-! ## Repetition -/

-- a loop is a deep term of binds
set_option synthInstance.maxSize 100000

section Repetition

variable (p q : Parser α) [Forward p] [Settles n r p q] (again again' : Parser Bool) [Forward again]
  [Settles n r again again'] [Advances p again]

/-- There are as many rounds as tokens. Each round that is followed by another one reads one, so
that the rounds do not run out; the induction is on their number. -/
theorem rounds_settled {m : Nat} {s : State} (hs : s.Leaves n r) (hm : s.rest.length < m) :
    Settled s (rounds p again m) (rounds q again' m) := by
  induction m generalizing s with
  | zero => exact absurd hm (Nat.not_lt_zero _)
  | succ m ih =>
      rw [rounds, rounds]
      refine (Settles.settled hs).bind fun {a t} ha => ?_
      have ht : t.Leaves n r := hs.ahead (Forward.leads ha)
      refine (Settles.settled ht).bind fun {more u} hmore => ?_
      cases more with
      | false => exact .of_ok rfl
      | true =>
          have hu : u.Leaves n r := ht.ahead (Forward.leads hmore)
          have hlen := Advances.shorter ha hmore
          exact (ih hu (by omega)).bind fun _ => .of_ok rfl

instance : Settles n r (chained p again) (chained q again') :=
  ⟨fun hs => .look_bind (rounds_settled p q again again' hs (Nat.lt_succ_self _))⟩

end Repetition

section Repetition

variable (p q : Parser α) [Forward p] [Settles n r p q]

instance (more : Rest → Bool) [Consumes p] : Settles n r (whileIs more p) (whileIs more q) := by
  unfold whileIs
  infer_instance

instance [Consumes p] : Settles n r (toEnd p) (toEnd q) := by
  unfold toEnd
  infer_instance

instance (stop : Rest → Bool) (sep : String) [Mark sep] :
    Settles n r (separated stop sep p) (separated stop sep q) := by
  unfold separated
  infer_instance

instance : Settles n r (commaSeparated p) (commaSeparated q) := by
  unfold commaSeparated
  infer_instance

instance (stop : Rest → Bool) : Settles n r (joined stop p) (joined stop q) := by
  unfold joined
  infer_instance

end Repetition

/-! ## Rules with rounds of their own -/

/-- The same where fewer than `m` tokens are left. -/
class SettlesBelow (n r m : Nat) (p q : Parser α) : Prop where
  settled : ∀ {s : State}, s.Leaves n r → s.rest.length < m → Settled s p q

namespace SettlesBelow

variable {m : Nat}

theorem zero (p q : Parser α) : SettlesBelow n r 0 p q :=
  ⟨fun _ hm => absurd hm (Nat.not_lt_zero _)⟩

instance (priority := low) (p q : Parser α) [h : Settles n r p q] : SettlesBelow n r m p q :=
  ⟨fun hs _ => h.settled hs⟩

instance (c : Prop) [Decidable c] (p q p' q' : Parser α) [hp : SettlesBelow n r m p p']
    [hq : SettlesBelow n r m q q'] :
    SettlesBelow n r m (if c then p else q) (if c then p' else q') :=
  ⟨fun hs hm => .ite (fun _ => hp.settled hs hm) fun _ => hq.settled hs hm⟩

instance (p q : Parser α) (f k : α → Parser β) [Forward p] [hp : SettlesBelow n r m p q]
    [hf : ∀ a, SettlesBelow n r m (f a) (k a)] : SettlesBelow n r m (p >>= f) (q >>= k) := by
  refine ⟨fun hs hm => (hp.settled hs hm).bind fun hok => ?_⟩
  exact (hf _).settled (hs.ahead (Forward.leads hok))
    (Nat.lt_of_le_of_lt (Forward.length_le hok) hm)

/-- Behind a part that has read a token there is one less, and more room. -/
instance (priority := high) (p q : Parser α) (f k : α → Parser β) [Consumes p] [Forward p]
    [hp : Settles n r p q] [hf : ∀ a, SettlesBelow n 8 m (f a) (k a)] :
    SettlesBelow n r (m + 1) (p >>= f) (q >>= k) := by
  refine ⟨fun hs hm => (hp.settled hs).bind fun hok => ?_⟩
  exact (hf _).settled (hs.eight (Forward.leads hok) (Consumes.shorter hok))
    (Nat.lt_of_lt_of_le (Consumes.shorter hok) (Nat.le_of_lt_succ hm))

theorem bind (p q : Parser α) {f k : α → Parser β} [Forward p] [SettlesBelow n r m p q]
    (h : ∀ a, SettlesBelow n r m (f a) (k a)) : SettlesBelow n r m (p >>= f) (q >>= k) :=
  inferInstance

end SettlesBelow

/-- A rule with as many rounds as there are tokens. -/
theorem Settles.of_length (p q : Nat → Parser α) [h : ∀ m, SettlesBelow n r m (p m) (q m)] :
    Settles n r (look >>= fun ts => p (ts.length + 1)) (look >>= fun ts => q (ts.length + 1)) :=
  ⟨fun hs => .look_bind ((h _).settled hs (Nat.lt_succ_self _))⟩

end NodeIdGen.Syntax
