import NodeIdGen.Proofs.Syntax.Forward

/-!
# Reading uses up tokens

A parser that goes forward may still leave all that it was given. `Consumes` says that it does not:
each success leaves fewer tokens. `Tells` says the same of a parser that looks for something, for
the case that it finds it. The instances follow the way parsers are put together; in a sequence, one
part that consumes is enough.
-/

namespace NodeIdGen.Syntax

open NodeIdGen.Syntax.Parser

variable {α β : Type}

/-- Each success leaves fewer tokens than there were. -/
class Consumes (p : Parser α) : Prop where
  shorter : ∀ {s t : State} {a : α}, p s = .ok (a, t) → t.rest.length < s.rest.length

/-- Where the parser says yes, it leaves fewer tokens than there were. -/
class Tells (p : Parser Bool) : Prop where
  shorter : ∀ {s t : State}, p s = .ok (true, t) → t.rest.length < s.rest.length

theorem Forward.length_le {p : Parser α} [Forward p] {s t : State} {a : α}
    (h : p s = .ok (a, t)) : t.rest.length ≤ s.rest.length :=
  (Forward.suffix h).length_le

/-! ## Composition -/

instance (e : Fault) : Consumes (throw e : Parser α) :=
  ⟨fun h => by cases h⟩

instance (w : Wanted) : Consumes (wanted w : Parser α) :=
  ⟨fun h => by cases h⟩

instance (text : String) : Consumes (broken text : Parser α) :=
  ⟨fun h => by cases h⟩

instance (text : String) : Consumes (denied text : Parser α) :=
  ⟨fun h => by cases h⟩

instance (p : Parser α) (f : α → Parser β) [Consumes p] [∀ a, Forward (f a)] :
    Consumes (p >>= f) := by
  refine ⟨fun h => ?_⟩
  obtain ⟨a, u, hp, hf⟩ := ok_of_bind h
  exact Nat.lt_of_le_of_lt (Forward.length_le hf) (Consumes.shorter hp)

instance (p : Parser α) (f : α → Parser β) [Forward p] [∀ a, Consumes (f a)] :
    Consumes (p >>= f) := by
  refine ⟨fun h => ?_⟩
  obtain ⟨a, u, hp, hf⟩ := ok_of_bind h
  exact Nat.lt_of_lt_of_le (Consumes.shorter hf) (Forward.length_le hp)

instance (p : Parser α) (f : α → β) [Consumes p] : Consumes (f <$> p) := by
  rw [map_eq_pure_bind]
  infer_instance

instance (p : Parser α) [Consumes p] : Consumes (discard p) :=
  inferInstanceAs (Consumes ((fun _ => PUnit.unit) <$> p))

instance (c : Prop) [Decidable c] (p q : Parser α) [Consumes p] [Consumes q] :
    Consumes (if c then p else q) := by
  split <;> assumption

/-- Behind a part that consumes, the rest of a rule has only to go forward. -/
theorem Consumes.bind_forward (p : Parser α) {f : α → Parser β} [Consumes p]
    (h : ∀ a, Forward (f a)) : Consumes (p >>= f) :=
  inferInstance

/-- Behind a part that goes forward, the rest of a rule may be shown case by case. -/
theorem Consumes.bind (p : Parser α) {f : α → Parser β} [Forward p] (h : ∀ a, Consumes (f a)) :
    Consumes (p >>= f) :=
  inferInstance

/-- The same where the tokens `ts` are left. -/
structure ConsumesFrom (ts : Rest) (p : Parser α) : Prop where
  shorter : ∀ {s t : State} {a : α}, s.rest = ts → p s = .ok (a, t) → t.rest.length < ts.length

namespace ConsumesFrom

variable {ts us : Rest}

theorem of_consumes (p : Parser α) [Consumes p] : ConsumesFrom ts p :=
  ⟨fun hs h => hs ▸ Consumes.shorter h⟩

theorem moveTo (h : us.length < ts.length) : ConsumesFrom ts (moveTo us) :=
  ⟨fun _ hm => by cases hm; exact h⟩

theorem bind {p : Parser α} {f : α → Parser β} (hp : ConsumesFrom ts p)
    (hf : ∀ a, Forward (f a)) : ConsumesFrom ts (p >>= f) := by
  refine ⟨fun hs h => ?_⟩
  obtain ⟨a, u, h₁, h₂⟩ := ok_of_bind h
  exact Nat.lt_of_le_of_lt (Forward.length_le h₂) (hp.shorter hs h₁)

theorem ite {c : Prop} [Decidable c] {p q : Parser α} (hp : ConsumesFrom ts p)
    (hq : ConsumesFrom ts q) : ConsumesFrom ts (if c then p else q) := by
  split
  · exact hp
  · exact hq

theorem moveTo_tail (t : Token) : ConsumesFrom (t :: us) (Parser.moveTo us) :=
  moveTo (Nat.lt_succ_self _)

end ConsumesFrom

/-- Behind a look, a parser may read what it has seen. -/
theorem Consumes.of_look {f : Rest → Parser β} (h : ∀ ts, ConsumesFrom ts (f ts)) :
    Consumes (look >>= f) :=
  ⟨fun hs => (h _).shorter rfl (ok_of_look hs)⟩

/-! ## Single tokens -/

/-- The two texts are the same. A literal is told to be made of characters by unifying it with a
text that is. -/
class SameText (s : String) (t : outParam String) : Prop where
  eq : s = t

instance (s : String) : SameText s s := ⟨rfl⟩

/-- Punctuation of at least one character. -/
class Mark (s : String) : Prop where
  nonempty : s.toList ≠ []

instance (s : String) (c : Char) (cs : List Char) [h : SameText s (String.ofList (c :: cs))] :
    Mark s := by
  refine ⟨?_⟩
  rw [h.eq, String.toList_ofList]
  exact List.cons_ne_nil c cs

theorem Rest.length_symbol? {cs : List Char} {ts us : Rest} (hcs : cs ≠ [])
    (h : Rest.symbol? cs ts = some us) : us.length < ts.length := by
  fun_induction Rest.symbol? cs ts with
  | case1 ts => exact absurd rfl hcs
  | case2 c j ts =>
      obtain rfl := Option.some.inj h
      exact Nat.lt_succ_self _
  | case3 => cases h
  | case4 c cs ts hne ih =>
      exact Nat.lt_succ_of_lt (ih hne h)
  | case5 => cases h
  | case6 => cases h

instance (s : String) [Mark s] : Consumes (symbol s) := by
  refine Consumes.of_look fun ts => ?_
  split
  · next h => exact .moveTo (Rest.length_symbol? Mark.nonempty h)
  · exact .of_consumes _

instance (w : String) : Consumes (word w) := by
  refine Consumes.of_look fun ts => ?_
  split
  · exact .ite (.moveTo_tail _) (.of_consumes _)
  · exact .of_consumes _

instance : Consumes anyWord := by
  refine Consumes.of_look fun ts => ?_
  split
  · exact (ConsumesFrom.moveTo_tail _).bind inferInstance
  · exact .of_consumes _

instance : Consumes name := by
  refine Consumes.of_look fun ts => ?_
  split
  · exact .ite (.of_consumes _) ((ConsumesFrom.moveTo_tail _).bind inferInstance)
  · exact .of_consumes _

instance : Consumes lifetime := by
  refine Consumes.of_look fun ts => ?_
  split
  · exact (ConsumesFrom.moveTo_tail _).bind inferInstance
  · exact .of_consumes _

theorem Rest.length_literal? {ts us : Rest} (h : Rest.literal? ts = some us) :
    us.length < ts.length := by
  unfold Rest.literal? at h
  split at h
  · obtain rfl := Option.some.inj h
    exact Nat.lt_succ_self _
  · split at h
    · obtain rfl := Option.some.inj h
      exact Nat.lt_succ_self _
    · cases h
  · split at h
    · obtain rfl := Option.some.inj h
      exact Nat.lt_succ_of_lt (Nat.lt_succ_self _)
    · cases h
  · cases h

instance : Consumes literal := by
  refine Consumes.of_look fun ts => ?_
  split
  · next h => exact .moveTo (Rest.length_literal? h)
  · exact .of_consumes _

instance (d : Delimiter) (p : Parser α) : Consumes (group d p) := by
  refine ⟨fun h => ?_⟩
  obtain ⟨content, after, u, hs, -, rfl⟩ := ok_of_group h
  rw [hs]
  exact Nat.lt_succ_self _

instance : Consumes anyGroup := by
  refine Consumes.of_look fun ts => ?_
  split
  · exact (ConsumesFrom.moveTo_tail _).bind inferInstance
  · exact .of_consumes _

instance (d : Delimiter) : Consumes (skipGroup d) := by
  unfold skipGroup
  infer_instance

/-! ## What is told -/

instance (s : String) [Mark s] : Tells (symbol? s) := by
  refine ⟨fun {u t} h => ?_⟩
  rw [symbol?, bind_of_ok look_apply] at h
  cases hsymbol : Rest.symbol? s.toList u.rest with
  | some ts =>
      rw [hsymbol] at h
      cases h
      exact Rest.length_symbol? Mark.nonempty hsymbol
  | none =>
      rw [hsymbol] at h
      cases h

instance (w : String) : Tells (word? w) := by
  refine ⟨fun {s t} h => ?_⟩
  obtain ⟨ts, l⟩ := s
  replace h := ok_of_look h
  dsimp only at h
  split at h
  · split at h
    · cases h
      exact Nat.lt_succ_self _
    · cases h
  · cases h

instance : Tells (pure false) :=
  ⟨fun h => by cases h⟩

instance (priority := low) (p : Parser Bool) [Consumes p] : Tells p :=
  ⟨Consumes.shorter⟩

instance (c : Prop) [Decidable c] (p q : Parser Bool) [Tells p] [Tells q] :
    Tells (if c then p else q) := by
  split <;> assumption

/-- Behind a part that has said no, only the second branch is left. -/
instance [Decidable (false = true)] (p q : Parser Bool) [Tells q] :
    Tells (if false = true then p else q) := by
  rw [if_neg Bool.false_ne_true]
  infer_instance

instance (p : Parser α) (f : α → Parser Bool) [Forward p] [∀ a, Tells (f a)] :
    Tells (p >>= f) := by
  refine ⟨fun h => ?_⟩
  obtain ⟨a, u, hp, hf⟩ := ok_of_bind h
  exact Nat.lt_of_lt_of_le (Tells.shorter hf) (Forward.length_le hp)

instance (p : Parser Bool) (f : Bool → Parser Bool) [Forward p] [Tells p] [Forward (f true)]
    [Tells (f false)] : Tells (p >>= f) := by
  refine ⟨fun h => ?_⟩
  obtain ⟨found, u, hp, hf⟩ := ok_of_bind h
  cases found with
  | true => exact Nat.lt_of_le_of_lt (Forward.length_le hf) (Tells.shorter hp)
  | false => exact Nat.lt_of_lt_of_le (Tells.shorter hf) (Forward.length_le hp)

/-! ## Repetition: the first round reads a token -/

section Repetition

variable (p : Parser α) [Forward p] [Consumes p] (again : Parser Bool) [Forward again]

instance (n : Nat) : Consumes (rounds p again n) := by
  cases n with
  | zero => unfold rounds; infer_instance
  | succ n => unfold rounds; infer_instance

instance : Consumes (chained p again) := by
  unfold chained
  infer_instance

end Repetition

/-- Each round that is followed by another one reads a token. -/
class Advances (p : Parser α) (again : Parser Bool) : Prop where
  shorter : ∀ {s t u : State} {a : α}, p s = .ok (a, t) → again t = .ok (true, u) →
    u.rest.length < s.rest.length

instance (p : Parser α) [Consumes p] (again : Parser Bool) [Forward again] : Advances p again :=
  ⟨fun hp hagain => Nat.lt_of_le_of_lt (Forward.length_le hagain) (Consumes.shorter hp)⟩

instance (p : Parser α) [Forward p] (again : Parser Bool) [Tells again] : Advances p again :=
  ⟨fun hp hagain => Nat.lt_of_lt_of_le (Tells.shorter hagain) (Forward.length_le hp)⟩

end NodeIdGen.Syntax
