/-!
# Running computations with a state

Parsers of tokens and readers of characters are both computations that change a state or fail. Here
is what their composition does in a given state, so that the monad is opened nowhere else.
-/

namespace NodeIdGen

variable {σ ε α β : Type} {s t : σ}

@[simp] theorem pure_apply (a : α) : (pure a : StateT σ (Except ε) α) s = .ok (a, s) := rfl

@[simp] theorem throw_apply (e : ε) : (throw e : StateT σ (Except ε) α) s = .error e := rfl

@[simp] theorem get_apply : (get : StateT σ (Except ε) σ) s = .ok (s, s) := rfl

@[simp] theorem set_apply : (set t : StateT σ (Except ε) PUnit) s = .ok (⟨⟩, t) := rfl

theorem bind_apply (p : StateT σ (Except ε) α) (f : α → StateT σ (Except ε) β) :
    (p >>= f) s = match p s with
      | .ok (a, t) => f a t
      | .error e => .error e := by
  cases h : p s <;> simp [bind, StateT.bind, Except.bind, h]

theorem bind_of_ok {p : StateT σ (Except ε) α} {a : α} (h : p s = .ok (a, t))
    (f : α → StateT σ (Except ε) β) :
    (p >>= f) s = f a t := by
  simp [bind_apply, h]

theorem bind_of_error {p : StateT σ (Except ε) α} {e : ε} (h : p s = .error e)
    (f : α → StateT σ (Except ε) β) :
    (p >>= f) s = .error e := by
  simp [bind_apply, h]

theorem map_apply (f : α → β) (p : StateT σ (Except ε) α) :
    (f <$> p) s = match p s with
      | .ok (a, t) => .ok (f a, t)
      | .error e => .error e := by
  cases h : p s <;>
    simp [Functor.map, StateT.map, bind, Except.bind, pure, Except.pure, h]

theorem discard_apply (p : StateT σ (Except ε) α) :
    discard p s = match p s with
      | .ok (_, t) => .ok ((), t)
      | .error e => .error e :=
  map_apply _ p

theorem ok_of_bind {p : StateT σ (Except ε) α} {f : α → StateT σ (Except ε) β} {b : β}
    (h : (p >>= f) s = .ok (b, t)) : ∃ a u, p s = .ok (a, u) ∧ f a u = .ok (b, t) := by
  rw [bind_apply] at h
  split at h
  · next a u hp => exact ⟨a, u, hp, h⟩
  · cases h

/-- What stops a sequence stops its first part or what follows it. -/
theorem error_of_bind {p : StateT σ (Except ε) α} {f : α → StateT σ (Except ε) β} {e : ε}
    (h : (p >>= f) s = .error e) :
    p s = .error e ∨ ∃ a u, p s = .ok (a, u) ∧ f a u = .error e := by
  rw [bind_apply] at h
  split at h
  · next a u hp => exact .inr ⟨a, u, hp, h⟩
  · next hp => exact .inl (hp.trans (congrArg Except.error (Except.error.inj h)))

theorem ok_of_lift {x : Except ε α} {a : α}
    (h : (liftM x : StateT σ (Except ε) α) s = .ok (a, t)) : x = .ok a ∧ t = s := by
  cases x with
  | error e => cases h
  | ok a =>
      cases h
      exact ⟨rfl, rfl⟩

end NodeIdGen
