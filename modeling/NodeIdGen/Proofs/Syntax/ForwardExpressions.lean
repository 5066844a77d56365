import NodeIdGen.Proofs.Syntax.ForwardTypes
import NodeIdGen.Syntax.Function

/-!
# Expressions and statements go forward

The operators are the only place where the grammar moves by more than one token at once, and a
statement the only one where it goes back: an item is read again from where the statement began.
-/

namespace NodeIdGen.Syntax

open NodeIdGen.Syntax.Parser

set_option synthInstance.maxSize 100000

variable (g : Grammar) [ForwardGrammar g]

/-! ## Expressions -/

instance : Forward (plainBlock g) := by
  unfold plainBlock
  infer_instance

instance : Forward (ifExpr g) := by
  unfold ifExpr
  dsimp only
  infer_instance

instance : Forward (whileExpr g) := by
  unfold whileExpr
  infer_instance

instance : Forward (forExpr g) := by
  unfold forExpr
  infer_instance

instance : Forward (loopExpr g) := by
  unfold loopExpr
  infer_instance

instance : Forward (arm g) := by
  unfold arm
  dsimp only
  infer_instance

instance : Forward (matchExpr g) := by
  unfold matchExpr
  infer_instance

instance : Forward (labelled g) := by
  unfold labelled
  infer_instance

instance (braces : Bool) : Forward (closure g braces) := by
  unfold closure
  infer_instance

instance : Forward (fieldValue g) := by
  unfold fieldValue
  refine Forward.bind _ fun _ => Forward.bind _ fun m => ?_
  cases m <;> dsimp only <;> infer_instance

instance (n : Nat) : Forward (fieldValues g n) := by
  induction n with
  | zero => unfold fieldValues; infer_instance
  | succ n ih => unfold fieldValues; infer_instance

instance (braces : Bool) : Forward (pathExpr g braces) := by
  unfold pathExpr
  refine Forward.bind _ fun p => Forward.bind _ fun invoked => ?_
  cases invoked <;> infer_instance

instance : Forward (arrayElements g) := by
  unfold arrayElements
  infer_instance

instance (braces : Bool) : Forward (letExpr g braces) := by
  unfold letExpr
  infer_instance

instance (braces : Bool) : Forward (jumpValue g braces) := by
  unfold jumpValue
  infer_instance

instance (braces : Bool) : Forward (breakExpr g braces) := by
  unfold breakExpr
  infer_instance

instance : Forward builtin := by
  unfold builtin
  infer_instance

instance (braces : Bool) (p : Precedence) (n : Nat) (e : Expr) :
    Forward (tighten g braces p n e) := by
  induction n generalizing e with
  | zero => unfold tighten; infer_instance
  | succ n ih => unfold tighten; infer_instance

instance (braces : Bool) (p : Precedence) : Forward (rightHand g braces p) := by
  unfold rightHand
  infer_instance

instance (braces : Bool) : Forward (rangeEnd g braces) := by
  unfold rangeEnd
  infer_instance

instance : Forward castEnd := by
  unfold castEnd
  dsimp only
  infer_instance

theorem binaryOperator?_suffix {ts us : Rest} {p : Precedence}
    (h : binaryOperator? ts = some (p, us)) : us <:+ ts := by
  obtain ⟨⟨s, q⟩, -, hs⟩ := List.exists_of_findSome?_eq_some h
  obtain ⟨vs, hv, he⟩ := Option.map_eq_some_iff.1 hs
  cases he
  exact Rest.symbol?_suffix hv

instance (braces : Bool) (base : Precedence) (n : Nat) (e : Expr) :
    Forward (climbing g braces base n e) := by
  induction n generalizing e with
  | zero => unfold climbing; infer_instance
  | succ n ih =>
      unfold climbing
      split
      · infer_instance
      · refine Forward.of_look fun ts => ?_
        split
        · next h =>
          refine .ite (.of_forward _) (.ite (.of_forward _) ?_)
          exact (ForwardFrom.moveTo (binaryOperator?_suffix h)).bind inferInstance
        · exact .of_forward _

instance (braces : Bool) (base : Precedence) (lhs : Expr) :
    Forward (climbRule g braces base lhs) := by
  unfold climbRule
  infer_instance

theorem eq_or_of_ite_some {α : Type} {c : Prop} [Decidable c] {a b : α} {x : Option α}
    (h : (if c then some a else x) = some b) : a = b ∨ x = some b := by
  split at h
  · exact .inl (Option.some.inj h)
  · exact .inr h

omit [ForwardGrammar g] in
/-- What holds of each form that ends with its own braces holds of the one that stands here. -/
theorem blockExpr?_cases {P : Parser Unit → Prop} {ts : Rest} {form : Parser Unit}
    (h : blockExpr? g ts = some form) (ifExpr : P (ifExpr g)) (whileExpr : P (whileExpr g))
    (forExpr : P (forExpr g)) (loopExpr : P (loopExpr g)) (matchExpr : P (matchExpr g))
    (tryBlock : P (do word "try"; discard (plainBlock g)))
    (unsafeBlock : P (do word "unsafe"; discard (body g)))
    (constBlock : P (do word "const"; discard (body g)))
    (block : P (discard (body g))) (labelled : P (labelled g)) : P form := by
  unfold blockExpr? at h
  rcases eq_or_of_ite_some h with rfl | h
  · exact ifExpr
  rcases eq_or_of_ite_some h with rfl | h
  · exact whileExpr
  rcases eq_or_of_ite_some h with rfl | h
  · exact forExpr
  rcases eq_or_of_ite_some h with rfl | h
  · exact loopExpr
  rcases eq_or_of_ite_some h with rfl | h
  · exact matchExpr
  rcases eq_or_of_ite_some h with rfl | h
  · exact tryBlock
  rcases eq_or_of_ite_some h with rfl | h
  · exact unsafeBlock
  rcases eq_or_of_ite_some h with rfl | h
  · exact constBlock
  rcases eq_or_of_ite_some h with rfl | h
  · exact block
  rcases eq_or_of_ite_some h with rfl | h
  · exact labelled
  cases h

theorem forward_of_blockExpr? {ts : Rest} {form : Parser Unit}
    (h : blockExpr? g ts = some form) : Forward form := by
  apply blockExpr?_cases g h <;> infer_instance

instance (braces : Bool) : Forward (atom g braces) := by
  unfold atom
  refine Forward.bind _ fun ts => ?_
  cases hf : blockExpr? g ts with
  | none => infer_instance
  | some form =>
      have := forward_of_blockExpr? g hf
      infer_instance

instance (e : Expr) : Forward (projection g e) := by
  unfold projection
  refine Forward.bind _ fun a => ?_
  split
  · infer_instance
  · refine Forward.bind _ fun m => ?_
    cases m <;> dsimp only <;> infer_instance

instance (e : Expr) : Forward (behindPoint g e) := by
  refine Forward.of_look fun ts => ?_
  split
  · split
    · exact .of_forward _
    · exact (ForwardFrom.moveTo (List.suffix_cons _ _)).bind inferInstance
  · exact .of_forward _

instance (n : Nat) (e : Expr) : Forward (trailing g n e) := by
  induction n generalizing e with
  | zero => unfold trailing; infer_instance
  | succ n ih => unfold trailing; infer_instance

instance (e : Expr) : Forward (trailers g e) := by unfold trailers; infer_instance

instance : Forward referenceMarks := by
  unfold referenceMarks
  infer_instance

instance (braces : Bool) : Forward (unaryRule g braces) := by
  unfold unaryRule
  refine Forward.bind _ fun attrs => Forward.of_look fun ts => ?_
  refine .ite (.of_forward _) (.ite ?_ (.of_forward _))
  exact (ForwardFrom.moveTo (List.drop_suffix _ _)).bind inferInstance

instance (braces : Bool) : Forward (exprRule g braces) := by
  unfold exprRule
  infer_instance

instance : Forward (earlyRule g) := by
  unfold earlyRule
  refine Forward.bind _ fun _ => Forward.bind _ fun ts => ?_
  split
  · next h =>
    have := forward_of_blockExpr? g h
    infer_instance
  · infer_instance

/-! ## Statements -/

instance : Forward (binding g) := by
  unfold binding
  dsimp only
  infer_instance

instance : Forward invocationStmt := by
  unfold invocationStmt
  dsimp only
  infer_instance

instance : Forward (stmt g) := by
  refine ⟨fun {s t a} h => ?_⟩
  obtain ⟨start, u, hs, h⟩ := ok_of_bind h
  cases hs
  obtain ⟨_, u₁, h₁, h⟩ := ok_of_bind h
  obtain ⟨kind, u₂, h₂, h⟩ := ok_of_bind h
  obtain ⟨ts, u₃, h₃, h⟩ := ok_of_bind h
  have hu : s.Leads u₃ :=
    ((Forward.leads h₁).trans (Forward.leads h₂)).trans (Forward.leads h₃)
  -- an item is read again from the start, so it leads on from where the statement began
  have again : ∀ {v b}, (do set s; discard g.item; return Stmt.item : Parser Stmt) u₃ = .ok (b, v) →
      s.Leads v := by
    intro v b hv
    obtain ⟨_, w, hw, hv⟩ := ok_of_bind hv
    cases hw
    exact Forward.leads hv
  generalize kind.getD .none = k at h
  cases k with
  | braced => exact hu.trans (Forward.leads h)
  | definition => exact again h
  | none =>
      dsimp only at h
      split at h
      · exact hu.trans (Forward.leads h)
      · split at h
        · exact again h
        · obtain ⟨e, u₄, h₄, h⟩ := ok_of_bind h
          obtain ⟨ended, u₅, h₅, h⟩ := ok_of_bind h
          refine (hu.trans (Forward.leads h₄)).trans ((Forward.leads h₅).trans ?_)
          split at h
          · split at h <;> exact Forward.leads h
          · exact Forward.leads h

instance : Forward (stmtThenGap g) := by
  unfold stmtThenGap
  infer_instance

instance : Forward (stmtsRule g) := by
  unfold stmtsRule
  infer_instance

/-! ## Functions -/

instance : Forward (receiver g) := by
  unfold receiver
  dsimp only
  infer_instance

instance : Forward (param g) := by
  unfold param
  refine Forward.bind _ fun _ => Forward.bind _ fun b => ?_
  split
  · infer_instance
  · refine Forward.bind _ fun r => ?_
    cases r <;> infer_instance

instance (first : Bool) (n : Nat) : Forward (params g first n) := by
  induction n generalizing first with
  | zero => unfold params; infer_instance
  | succ n ih =>
      unfold params
      dsimp only
      refine Forward.bind _ fun empty => ?_
      split
      · infer_instance
      · refine Forward.bind _ fun p => ?_
        cases p <;> infer_instance

instance (safe : Bool) : Forward (functionMarks safe) := by
  unfold functionMarks
  dsimp only
  infer_instance

instance (safe : Bool) : Forward (atSignature safe) := by
  unfold atSignature
  infer_instance

instance (safe : Bool) : Forward (signature g safe) := by
  unfold signature
  infer_instance

end NodeIdGen.Syntax
