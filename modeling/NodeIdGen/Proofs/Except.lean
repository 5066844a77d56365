import Mathlib.Data.List.Forall2

/-!
# Computations that may fail

When a composition of steps succeeds, each step did. These facts take a successful run apart.
-/

namespace List

/-- Each entry of a list has a partner in a list that is related to it. -/
theorem exists_of_forall₂ {α β : Type} {R : α → β → Prop} {as : List α} {bs : List β}
    (h : Forall₂ R as bs) : ∀ a ∈ as, ∃ b ∈ bs, R a b := by
  induction h with
  | nil => exact forall_mem_nil _
  | @cons a b _ _ hab _ ih =>
      refine forall_mem_cons.2 ⟨⟨b, mem_cons_self, hab⟩, fun c hc => ?_⟩
      obtain ⟨d, hd, hcd⟩ := ih c hc
      exact ⟨d, mem_cons_of_mem _ hd, hcd⟩

end List

namespace Except

variable {ε δ α β : Type} {a a' : α} {b : β}

@[simp] theorem pure_ok_iff : (pure a : Except ε α) = .ok a' ↔ a = a' :=
  ⟨Except.ok.inj, congrArg Except.ok⟩

@[simp] theorem throw_not_ok {e : ε} : (throw e : Except ε α) ≠ .ok a :=
  nofun

@[simp] theorem bind_ok_iff {x : Except ε α} {f : α → Except ε β} :
    (x >>= f) = .ok b ↔ ∃ a, x = .ok a ∧ f a = .ok b := by
  rcases x with e | a <;> simp [bind, Except.bind]

theorem bind_error_iff {x : Except ε α} {f : α → Except ε β} {e : ε} :
    (x >>= f) = .error e ↔ x = .error e ∨ ∃ a, x = .ok a ∧ f a = .error e := by
  rcases x with e' | a <;> simp [bind, Except.bind]

@[simp] theorem map_ok_iff {x : Except ε α} {f : α → β} :
    (f <$> x) = .ok b ↔ ∃ a, x = .ok a ∧ f a = b := by
  rcases x with e | a <;> simp [Functor.map, Except.map]

@[simp] theorem mapError_ok_iff {x : Except ε α} {f : ε → δ} :
    x.mapError f = .ok a ↔ x = .ok a := by
  rcases x with e | a'
  · exact ⟨nofun, nofun⟩
  · exact ⟨fun h => congrArg Except.ok (Except.ok.inj h),
      fun h => congrArg Except.ok (Except.ok.inj h)⟩

theorem mapError_error_iff {x : Except ε α} {f : ε → δ} {d : δ} :
    x.mapError f = .error d ↔ ∃ e, x = .error e ∧ f e = d := by
  rcases x with e | a'
  · constructor
    · intro h
      exact ⟨e, rfl, Except.error.inj h⟩
    · rintro ⟨_, he, rfl⟩
      cases he
      rfl
  · constructor
    · intro h
      cases h
    · rintro ⟨_, he, -⟩
      cases he

@[simp] theorem pure_not_error {e : ε} : (pure a : Except ε α) ≠ .error e :=
  nofun

/-- A check in front of a computation stops it or changes nothing. -/
@[simp] theorem guard_ok_iff {c : Prop} [Decidable c] {e : ε} {f : β → Except ε α}
    {x : Except ε α} : (if c then throw e >>= f else x) = .ok a ↔ ¬ c ∧ x = .ok a := by
  by_cases hc : c <;> simp [hc]

theorem guard_error_iff {c : Prop} [Decidable c] {e e' : ε} {f : β → Except ε α}
    {x : Except ε α} : (if c then throw e >>= f else x) = .error e' ↔
      (c ∧ e = e') ∨ (¬ c ∧ x = .error e') := by
  by_cases hc : c <;> simp [hc, throw, throwThe, MonadExceptOf.throw, bind, Except.bind]

theorem toOption_eq_some {x : Except ε α} : x.toOption = some a ↔ x = .ok a := by
  rcases x with e | a' <;> simp [Except.toOption]

theorem isOk_iff {x : Except ε α} : x.isOk = true ↔ ∃ a, x = .ok a := by
  rcases x with e | a' <;> simp [Except.isOk, Except.toBool]

/-- A transformation that only checks each part yields all of them, changed, or nothing. -/
theorem mapM_ok_iff {f : α → Except ε β} {g : α → β} {ok : α → Prop} {as : List α} {bs : List β}
    (hf : ∀ a ∈ as, ∀ b, f a = .ok b ↔ ok a ∧ b = g a) :
    as.mapM f = .ok bs ↔ (∀ a ∈ as, ok a) ∧ bs = as.map g := by
  induction as generalizing bs with
  | nil =>
      constructor
      · intro h
        cases h
        exact ⟨List.forall_mem_nil _, rfl⟩
      · rintro ⟨-, rfl⟩
        rfl
  | cons a as ih =>
      rw [List.forall_mem_cons] at hf
      simp only [List.mapM_cons, bind_ok_iff, pure_ok_iff, hf.1, ih hf.2, List.forall_mem_cons,
        List.map_cons]
      constructor
      · rintro ⟨_, ⟨ha, rfl⟩, _, ⟨has, rfl⟩, rfl⟩
        exact ⟨⟨ha, has⟩, rfl⟩
      · rintro ⟨⟨ha, has⟩, rfl⟩
        exact ⟨_, ⟨ha, rfl⟩, _, ⟨has, rfl⟩, rfl⟩

theorem mapM_ok (f : α → β) (as : List α) :
    (as.mapM fun a => .ok (f a) : Except ε (List β)) = .ok (as.map f) :=
  List.mapM_pure

theorem mapM_eq_ok {f : α → Except ε β} {as : List α} {bs : List β} :
    as.mapM f = .ok bs ↔ List.Forall₂ (fun a b => f a = .ok b) as bs := by
  induction as generalizing bs with
  | nil => rw [List.mapM_nil, pure_ok_iff, List.forall₂_nil_left_iff, eq_comm]
  | cons a as ih =>
      simp only [List.mapM_cons, bind_ok_iff, pure_ok_iff, ih, List.forall₂_cons_left_iff]
      constructor
      · rintro ⟨b, hb, bs', hbs, rfl⟩
        exact ⟨b, bs', hb, hbs, rfl⟩
      · rintro ⟨b, bs', hb, hbs, rfl⟩
        exact ⟨b, hb, bs', hbs, rfl⟩

theorem exists_of_mapM_ok {f : α → Except ε β} {as : List α} {bs : List β}
    (h : as.mapM f = .ok bs) : ∀ b ∈ bs, ∃ a ∈ as, f a = .ok b :=
  List.exists_of_forall₂ (mapM_eq_ok.1 h).flip

/-- A fault is that of the first part that has one, whatever the parts behind it are. -/
theorem mapM_eq_error {f : α → Except ε β} {as : List α} {e : ε} :
    as.mapM f = .error e ↔ ∃ before a after, as = before ++ a :: after ∧
      (∀ b ∈ before, ∃ c, f b = .ok c) ∧ f a = .error e := by
  induction as with
  | nil => simp [pure, Except.pure]
  | cons a as ih =>
      rw [List.mapM_cons]
      constructor
      · intro h
        match ha : f a with
        | .error e' =>
          rw [ha] at h
          cases h
          exact ⟨[], a, as, rfl, List.forall_mem_nil _, ha⟩
        | .ok b =>
          have has : as.mapM f = .error e := by
            rw [ha] at h
            cases has : as.mapM f with
            | error e' => simpa [bind, Except.bind, has] using h
            | ok bs => simp [bind, Except.bind, has, pure, Except.pure] at h
          obtain ⟨before, c, after, rfl, hbefore, hc⟩ := ih.1 has
          exact ⟨a :: before, c, after, rfl, List.forall_mem_cons.2 ⟨⟨b, ha⟩, hbefore⟩, hc⟩
      · rintro ⟨_ | ⟨b, before⟩, c, after, has, hbefore, hc⟩
        · cases has
          rw [hc]
          rfl
        · obtain ⟨rfl, rfl⟩ := List.cons.inj has
          obtain ⟨⟨d, hd⟩, hbefore⟩ := List.forall_mem_cons.1 hbefore
          rw [hd, ih.2 ⟨before, c, after, rfl, hbefore, hc⟩]
          rfl

/-- Where each part is refused or transformed, the first part that is refused decides. -/
theorem mapM_eq_findSome? {f : α → Except ε β} {refusal? : α → Option ε} {g : α → β}
    (hf : ∀ a, f a = (refusal? a).elim (.ok (g a)) .error) (as : List α) :
    as.mapM f = (as.findSome? refusal?).elim (.ok (as.map g)) .error := by
  induction as with
  | nil => rfl
  | cons a as ih =>
      rw [List.mapM_cons, List.findSome?_cons, hf a, ih]
      cases refusal? a with
      | some e => rfl
      | none => cases as.findSome? refusal? <;> rfl

/-- Where two steps that succeed may be exchanged, all of them may come in another order. -/
theorem foldlM_ok_of_perm {f : β → α → Except ε β}
    (hswap : ∀ b x y c, (f b x >>= (f · y)) = .ok c → (f b y >>= (f · x)) = .ok c)
    {l₁ l₂ : List α} (h : l₁.Perm l₂) {b c : β} (hfold : l₁.foldlM f b = .ok c) :
    l₂.foldlM f b = .ok c := by
  induction h generalizing b with
  | nil => exact hfold
  | cons x _ ih =>
      rw [List.foldlM_cons, bind_ok_iff] at hfold ⊢
      obtain ⟨d, hd, hfold⟩ := hfold
      exact ⟨d, hd, ih hfold⟩
  | swap x y l =>
      simp only [List.foldlM_cons, ← bind_assoc] at hfold ⊢
      rw [bind_ok_iff] at hfold ⊢
      obtain ⟨d, hd, hfold⟩ := hfold
      exact ⟨d, hswap b y x d hd, hfold⟩
  | trans _ _ ih₁ ih₂ => exact ih₂ (ih₁ hfold)

theorem elim_ok_iff {r : Option ε} :
    (r.elim (.ok a) .error : Except ε α) = .ok a' ↔ r = none ∧ a = a' := by
  cases r <;> simp

theorem elim_error_iff {r : Option ε} {e : ε} :
    (r.elim (.ok a) .error : Except ε α) = .error e ↔ r = some e := by
  cases r <;> simp

theorem elim_bind {r : Option ε} {f : α → Except ε β} :
    (r.elim (.ok a) .error >>= f) = r.elim (f a) .error := by
  cases r <;> rfl

end Except
