import NodeIdGen.Proofs.Run
import NodeIdGen.Syntax.File

/-!
# Running the small parsers

What the building blocks of the grammar do in a given state, one equation each. Later proofs rewrite
with them, or take a run apart with `ok_of_bind` and `ok_of_look`, and do not open the definitions
again.
-/

namespace NodeIdGen.Syntax.Parser

variable {α β : Type} {s t : State}

/-! ## Looking and stopping -/

theorem ok_of_look {f : Rest → Parser β} {b : β} (h : (look >>= f) s = .ok (b, t)) :
    f s.rest s = .ok (b, t) := h

@[simp] theorem look_apply : look s = .ok (s.rest, s) := rfl

@[simp] theorem test_apply (f : Rest → Bool) : test f s = .ok (f s.rest, s) := rfl

@[simp] theorem moveTo_apply (ts : Rest) : moveTo ts s = .ok ((), { s with rest := ts }) := rfl

@[simp] theorem wanted_apply (w : Wanted) :
    (wanted w : Parser α) s = .error (.unmet w s.rest.isEmpty) := rfl

@[simp] theorem broken_apply (text : String) :
    (broken text : Parser α) s = .error (.rule text s.rest.isEmpty) := rfl

@[simp] theorem denied_apply (text : String) :
    (denied text : Parser α) s = .error (.rule text false) := rfl

theorem ahead?_apply (p : Parser α) :
    ahead? p s = .ok ((match p s with
      | .ok (a, _) => some a
      | .error _ => none), s) := by
  have h : ahead? p s = (match p s with
      | .ok (a, _) => (pure (some a) : Parser (Option α))
      | .error _ => pure none) s := rfl
  rw [h]
  cases p s <;> rfl

theorem attempt_apply (p : Parser α) :
    attempt p s = match p s with
      | .ok (a, t) => .ok (some a, t)
      | .error _ => .ok (none, s) := by
  have h : attempt p s = (match p s with
      | .ok (a, t) => (do set t; return some a : Parser (Option α))
      | .error _ => pure none) s := rfl
  rw [h]
  cases p s <;> rfl

/-! ## Groups -/

theorem group_apply (d e : Delimiter) (p : Parser α) (content after : Rest)
    (l : Option Delimiter) :
    group d p ⟨.group e content :: after, l⟩ =
      if d = e then
        match p ⟨content, l⟩ with
        | .ok (a, t) => .ok (a, leave d after t)
        | .error f => .error f
      else .error (.unmet (.group d) false) := by
  have h : group d p ⟨.group e content :: after, l⟩ = (if d = e then (match p ⟨content, l⟩ with
      | .ok (a, t) => (do set (leave d after t); return a : Parser α)
      | .error f => throw f) else wanted (.group d)) ⟨.group e content :: after, l⟩ := rfl
  rw [h]
  split
  · cases p ⟨content, l⟩ <;> rfl
  · rfl

/-- Behind a group nothing is noted exactly if the group was read to its end. -/
theorem leftover_leave {d : Delimiter} {after : Rest} :
    (leave d after s).leftover = none ↔ s.rest = [] ∧ s.leftover = none := by
  obtain ⟨rest, leftover⟩ := s
  cases leftover <;> cases rest <;> simp [leave]

/-- A group that was read stood in front with its own brackets. -/
theorem ok_of_group {d : Delimiter} {p : Parser α} {a : α} (h : group d p s = .ok (a, t)) :
    ∃ content after u, s.rest = .group d content :: after ∧
      p ⟨content, s.leftover⟩ = .ok (a, u) ∧ t = leave d after u := by
  obtain ⟨ts, l⟩ := s
  cases ts with
  | nil => cases h
  | cons x after =>
      cases x with
      | group e content =>
          rw [group_apply] at h
          split at h
          · next hd =>
            split at h
            · next b u hp => subst hd; cases h; exact ⟨content, after, u, rfl, hp, rfl⟩
            · cases h
          · cases h
      | ident _ | punct _ _ | literal _ | lifetime _ => cases h

/-! ## Whole texts -/

theorem parseAll_eq_ok {p : Grammar → Parser α} {ts : List Token} {a : α} :
    parseAll p ts = .ok a ↔
      p (grammar (nestingBound ts)) ⟨ts, none⟩ = .ok (a, ⟨[], none⟩) := by
  unfold parseAll StateT.run
  rcases p (grammar (nestingBound ts)) ⟨ts, none⟩ with e | ⟨b, ⟨rest, leftover⟩⟩
  · simp [bind, Except.bind]
  · rcases leftover with _ | d <;> rcases rest with _ | ⟨t, rest⟩ <;>
      simp [bind, Except.bind, pure, Except.pure, throw, throwThe, MonadExceptOf.throw]

end NodeIdGen.Syntax.Parser
