import NodeIdGen.Proofs.Syntax.Run

/-!
# Reading goes forward

A parser that succeeds leaves an end of the tokens it was given: it drops tokens from the front and
invents none. Nor does it forget a group that was left over. `Forward` says this of one parser, and
its instances follow the way parsers are put together, so that a rule is shown to go forward by
naming what it is made of.

The relative form `ForwardFrom ts` is for the places where a rule has looked at what is left and
then moves by itself: there `moveTo` is sound only because of what was seen.
-/

namespace NodeIdGen.Syntax

open NodeIdGen.Syntax.Parser

variable {α β : Type}

/-- The second state is ahead of the first: an end of its tokens is left, and a group that was left
over before is still noted. -/
structure State.Leads (s t : State) : Prop where
  suffix : t.rest <:+ s.rest
  noted : t.leftover = none → s.leftover = none

namespace State.Leads

variable {s t u : State}

theorem refl : s.Leads s :=
  ⟨List.suffix_rfl, id⟩

theorem trans (h : s.Leads t) (h' : t.Leads u) : s.Leads u :=
  ⟨h'.suffix.trans h.suffix, fun hu => h.noted (h'.noted hu)⟩

end State.Leads

/-- What the parser leaves is ahead of what it was given. -/
class Forward (p : Parser α) : Prop where
  leads : ∀ {s t : State} {a : α}, p s = .ok (a, t) → s.Leads t

theorem Forward.suffix {p : Parser α} [Forward p] {s t : State} {a : α} (h : p s = .ok (a, t)) :
    t.rest <:+ s.rest :=
  (Forward.leads h).suffix

/-- The same where the tokens `ts` are left. -/
structure ForwardFrom (ts : Rest) (p : Parser α) : Prop where
  leads : ∀ {s t : State} {a : α}, s.rest = ts → p s = .ok (a, t) → s.Leads t

namespace ForwardFrom

variable {ts us : Rest}

theorem of_forward (p : Parser α) [Forward p] : ForwardFrom ts p :=
  ⟨fun _ h => Forward.leads h⟩

theorem moveTo (h : us <:+ ts) : ForwardFrom ts (moveTo us) := by
  refine ⟨fun hs hm => ?_⟩
  cases hm
  exact ⟨hs ▸ h, id⟩

theorem bind {p : Parser α} {f : α → Parser β} (hp : ForwardFrom ts p)
    (hf : ∀ a, Forward (f a)) : ForwardFrom ts (p >>= f) := by
  refine ⟨fun hs h => ?_⟩
  obtain ⟨a, u, h₁, h₂⟩ := ok_of_bind h
  exact (hp.leads hs h₁).trans ((hf a).leads h₂)

theorem ite {c : Prop} [Decidable c] {p q : Parser α} (hp : ForwardFrom ts p)
    (hq : ForwardFrom ts q) : ForwardFrom ts (if c then p else q) := by
  split
  · exact hp
  · exact hq

end ForwardFrom

/-- Behind a look, a parser may use what it has seen. -/
theorem Forward.of_look {f : Rest → Parser β} (h : ∀ ts, ForwardFrom ts (f ts)) :
    Forward (look >>= f) :=
  ⟨fun hs => (h _).leads rfl (ok_of_look hs)⟩

/-! ## Composition -/

instance (a : α) : Forward (pure a : Parser α) :=
  ⟨fun h => by cases h; exact .refl⟩

instance (e : Fault) : Forward (throw e : Parser α) :=
  ⟨fun h => by cases h⟩

instance (p : Parser α) (f : α → Parser β) [Forward p] [hf : ∀ a, Forward (f a)] :
    Forward (p >>= f) :=
  ⟨fun h => ((ForwardFrom.of_forward p).bind hf).leads rfl h⟩

instance (p : Parser α) (f : α → β) [Forward p] : Forward (f <$> p) := by
  rw [map_eq_pure_bind]
  infer_instance

instance (p : Parser α) [Forward p] : Forward (discard p) :=
  inferInstanceAs (Forward ((fun _ => PUnit.unit) <$> p))

instance (c : Prop) [Decidable c] (p q : Parser α) [Forward p] [Forward q] :
    Forward (if c then p else q) := by
  split <;> assumption

/-! ## Looking and stopping -/

instance : Forward look :=
  ⟨fun h => by cases h; exact .refl⟩

instance (f : Rest → Bool) : Forward (test f) := by
  unfold test
  infer_instance

instance (w : Wanted) : Forward (wanted w : Parser α) := by
  unfold wanted
  infer_instance

instance (text : String) : Forward (broken text : Parser α) := by
  unfold broken
  infer_instance

instance (text : String) : Forward (denied text : Parser α) := by
  unfold denied
  infer_instance

instance (p : Parser α) : Forward (ahead? p) := by
  refine ⟨fun h => ?_⟩
  rw [ahead?_apply] at h
  cases h
  exact .refl

instance (p : Parser α) [Forward p] : Forward (attempt p) := by
  refine ⟨fun h => ?_⟩
  rw [attempt_apply] at h
  split at h
  · next hp => cases h; exact Forward.leads hp
  · cases h; exact .refl

/-! ## Single tokens

Each of these looks at the first tokens and moves behind them or stops. -/

theorem Rest.symbol?_suffix {cs : List Char} {ts us : Rest} (h : Rest.symbol? cs ts = some us) :
    us <:+ ts := by
  fun_induction Rest.symbol? cs ts with
  | case1 ts => exact Option.some.inj h ▸ List.suffix_rfl
  | case2 c j ts => exact Option.some.inj h ▸ List.suffix_cons _ _
  | case3 => cases h
  | case4 c cs ts hcs ih => exact (ih h).trans (List.suffix_cons _ _)
  | case5 => cases h
  | case6 => cases h

theorem Rest.literal?_suffix {ts us : Rest} (h : Rest.literal? ts = some us) : us <:+ ts := by
  unfold Rest.literal? at h
  split at h
  · exact Option.some.inj h ▸ List.suffix_cons _ _
  · split at h
    · exact Option.some.inj h ▸ List.suffix_cons _ _
    · cases h
  · split at h
    · exact Option.some.inj h ▸ ⟨[_, _], rfl⟩
    · cases h
  · cases h

instance (s : String) : Forward (symbol s) := by
  refine Forward.of_look fun ts => ?_
  split
  · next h => exact .moveTo (Rest.symbol?_suffix h)
  · exact .of_forward _

instance (s : String) : Forward (symbol? s) := by
  refine Forward.of_look fun ts => ?_
  split
  · next h => exact (ForwardFrom.moveTo (Rest.symbol?_suffix h)).bind inferInstance
  · exact .of_forward _

instance (w : String) : Forward (word w) := by
  refine Forward.of_look fun ts => ?_
  split
  · exact .ite (.moveTo (List.suffix_cons _ _)) (.of_forward _)
  · exact .of_forward _

instance (w : String) : Forward (word? w) := by
  refine Forward.of_look fun ts => ?_
  split
  · exact .ite ((ForwardFrom.moveTo (List.suffix_cons _ _)).bind inferInstance) (.of_forward _)
  · exact .of_forward _

instance : Forward anyWord := by
  refine Forward.of_look fun ts => ?_
  split
  · exact (ForwardFrom.moveTo (List.suffix_cons _ _)).bind inferInstance
  · exact .of_forward _

instance : Forward name := by
  refine Forward.of_look fun ts => ?_
  split
  · exact .ite (.of_forward _) ((ForwardFrom.moveTo (List.suffix_cons _ _)).bind inferInstance)
  · exact .of_forward _

instance : Forward name? := by
  unfold name?
  infer_instance

instance : Forward lifetime := by
  refine Forward.of_look fun ts => ?_
  split
  · exact (ForwardFrom.moveTo (List.suffix_cons _ _)).bind inferInstance
  · exact .of_forward _

instance : Forward lifetime? := by
  unfold lifetime?
  infer_instance

instance : Forward literal := by
  refine Forward.of_look fun ts => ?_
  split
  · next h => exact .moveTo (Rest.literal?_suffix h)
  · exact .of_forward _

/-! ## Groups -/

/-- A group is left behind as a whole; what is left over in it or in a group inside it is noted. -/
instance (d : Delimiter) (p : Parser α) [Forward p] : Forward (group d p) := by
  refine ⟨fun h => ?_⟩
  obtain ⟨content, after, u, hs, hu, rfl⟩ := ok_of_group h
  refine ⟨hs ▸ List.suffix_cons _ _, fun hnone => ?_⟩
  exact (Forward.leads hu).noted (leftover_leave.1 hnone).2

/-- Behind the end of the group nothing is left. -/
instance : Forward (moveTo []) :=
  ⟨fun h => by cases h; exact ⟨List.nil_suffix, id⟩⟩

instance : Forward anyGroup := by
  refine Forward.of_look fun ts => ?_
  split
  · exact (ForwardFrom.moveTo (List.suffix_cons _ _)).bind inferInstance
  · exact .of_forward _

instance (d : Delimiter) : Forward (skipGroup d) := by
  unfold skipGroup
  infer_instance

/-! ## Repetition -/

section Repetition

variable (p : Parser α) [Forward p]

instance (again : Parser Bool) [Forward again] (n : Nat) : Forward (rounds p again n) := by
  induction n with
  | zero => unfold rounds; infer_instance
  | succ n ih => unfold rounds; infer_instance

instance (again : Parser Bool) [Forward again] : Forward (chained p again) := by
  unfold chained
  infer_instance

instance (more : Rest → Bool) : Forward (whileIs more p) := by
  unfold whileIs
  infer_instance

instance : Forward (toEnd p) := by
  unfold toEnd
  infer_instance

instance (stop : Rest → Bool) (sep : String) : Forward (separated stop sep p) := by
  unfold separated
  infer_instance

instance : Forward (commaSeparated p) := by
  unfold commaSeparated
  infer_instance

instance (stop : Rest → Bool) : Forward (joined stop p) := by
  unfold joined
  infer_instance

end Repetition

end NodeIdGen.Syntax
