import NodeIdGen.Proofs.Syntax.DepthTypes
import NodeIdGen.Proofs.Syntax.ForwardExpressions

/-!
# Expressions and statements come to an end
-/

namespace NodeIdGen.Syntax

open NodeIdGen.Syntax.Parser

set_option synthInstance.maxSize 100000

variable {n r : Nat} (g g' : Grammar) [ForwardGrammar g] [ConsumesGrammar g] [SettlesGrammar n g g']

/-! ## Expressions -/

instance : Settles n r (plainBlock g) (plainBlock g') := by
  unfold plainBlock
  infer_instance

instance : Consumes (ifExpr g) := by
  unfold ifExpr
  dsimp only
  infer_instance

instance : Settles n r (ifExpr g) (ifExpr g') := by
  unfold ifExpr
  dsimp only
  infer_instance

instance : Consumes (whileExpr g) := by
  unfold whileExpr
  infer_instance

instance : Settles n r (whileExpr g) (whileExpr g') := by
  unfold whileExpr
  infer_instance

instance : Consumes (forExpr g) := by
  unfold forExpr
  infer_instance

instance : Settles n r (forExpr g) (forExpr g') := by
  unfold forExpr
  infer_instance

instance : Consumes (loopExpr g) := by
  unfold loopExpr
  infer_instance

instance : Settles n r (loopExpr g) (loopExpr g') := by
  unfold loopExpr
  infer_instance

instance : Consumes (arm g) := by
  unfold arm
  dsimp only
  infer_instance

instance : Settles n (r + 1) (arm g) (arm g') := by
  unfold arm
  dsimp only
  infer_instance

instance : Consumes (matchExpr g) := by
  unfold matchExpr
  infer_instance

instance : Settles n r (matchExpr g) (matchExpr g') := by
  unfold matchExpr
  infer_instance

instance : Consumes (labelled g) := by
  unfold labelled
  infer_instance

instance : Settles n r (labelled g) (labelled g') := by
  unfold labelled
  infer_instance

instance (braces : Bool) : Consumes (closure g braces) := by
  unfold closure
  infer_instance

instance (braces : Bool) : Settles n r (closure g braces) (closure g' braces) := by
  unfold closure
  infer_instance

instance : Settles n r (fieldValue g) (fieldValue g') := by
  unfold fieldValue
  refine Settles.bind _ _ fun _ => Settles.bind _ _ fun m => ?_
  cases m <;> dsimp only <;> infer_instance

instance (k : Nat) : SettlesBelow n (r + 2) k (fieldValues g k) (fieldValues g' k) := by
  induction k generalizing r with
  | zero => exact .zero _ _
  | succ k ih => unfold fieldValues; infer_instance

instance (braces : Bool) : Consumes (pathExpr g braces) := by
  unfold pathExpr
  refine Consumes.bind_forward _ fun p => Forward.bind _ fun invoked => ?_
  cases invoked <;> infer_instance

instance (braces : Bool) : Settles n r (pathExpr g braces) (pathExpr g' braces) := by
  have : Settles n 8 _ _ := .of_length (fieldValues g) (fieldValues g')
  unfold pathExpr
  refine Settles.bind _ _ fun p => Settles.bind _ _ fun invoked => ?_
  cases invoked <;> infer_instance

instance : Settles n (r + 2) (arrayElements g) (arrayElements g') := by
  unfold arrayElements
  infer_instance

instance (braces : Bool) : Consumes (letExpr g braces) := by
  unfold letExpr
  infer_instance

instance (braces : Bool) : Settles n r (letExpr g braces) (letExpr g' braces) := by
  unfold letExpr
  infer_instance

instance (braces : Bool) : Settles n (r + 2) (jumpValue g braces) (jumpValue g' braces) := by
  unfold jumpValue
  infer_instance

instance (braces : Bool) : Consumes (breakExpr g braces) := by
  unfold breakExpr
  infer_instance

instance (braces : Bool) : Settles n r (breakExpr g braces) (breakExpr g' braces) := by
  unfold breakExpr
  infer_instance

instance : Consumes builtin := by
  unfold builtin
  infer_instance

instance : Settles n r builtin builtin := by
  unfold builtin
  infer_instance

/-! ## Operators -/

/-- Another round follows only where operators were read. -/
instance (braces : Bool) (p : Precedence) (k : Nat) (e : Expr) :
    SettlesBelow n (r + 1) k (tighten g braces p k e) (tighten g' braces p k e) := by
  induction k generalizing e with
  | zero => exact .zero _ _
  | succ k ih =>
      refine ⟨fun {s} hs hk => ?_⟩
      rw [tighten, tighten]
      refine .look_bind (.ite (fun _ => ?_) fun _ => .of_ok rfl)
      refine (Settles.settled hs).bind fun {rhs t} hclimb => .look_bind (.ite ?_ fun hne => ?_)
      · exact fun _ => .of_ok rfl
      · have ht := hs.ahead (Forward.leads hclimb)
        have hlen := Forward.length_le hclimb
        exact (ih rhs).settled ht (by omega)

instance (braces : Bool) (p : Precedence) :
    Settles n (r + 1) (rightHand g braces p) (rightHand g' braces p) := by
  unfold rightHand
  refine Settles.bind _ _ fun rhs => ?_
  exact .of_length (fun k => tighten g braces p k rhs) fun k => tighten g' braces p k rhs

instance (braces : Bool) : Consumes (rangeEnd g braces) := by
  unfold rangeEnd
  infer_instance

instance (braces : Bool) : Settles n r (rangeEnd g braces) (rangeEnd g' braces) := by
  unfold rangeEnd
  infer_instance

instance : Settles n r castEnd castEnd := by
  unfold castEnd
  dsimp only
  infer_instance

theorem length_binaryOperator? {ts us : Rest} {p : Precedence}
    (h : binaryOperator? ts = some (p, us)) : us.length < ts.length := by
  have nonempty : ∀ o ∈ binaryOperators, o.1.toList ≠ [] := by decide
  obtain ⟨⟨s, q⟩, hmem, hs⟩ := List.exists_of_findSome?_eq_some h
  obtain ⟨vs, hv, he⟩ := Option.map_eq_some_iff.1 hs
  cases he
  exact Rest.length_symbol? (nonempty _ hmem) hv

/-- Behind each operator there is less to read. -/
instance (braces : Bool) (base : Precedence) (k : Nat) (e : Expr) :
    SettlesBelow n r k (climbing g braces base k e) (climbing g' braces base k e) := by
  induction k generalizing r e with
  | zero => exact .zero _ _
  | succ k ih =>
      unfold climbing
      split
      · infer_instance
      · refine ⟨fun {s} hs hk => .look_bind ?_⟩
        cases hoperator : binaryOperator? s.rest with
        | none => exact SettlesBelow.settled hs hk
        | some operator =>
            obtain ⟨p, rest⟩ := operator
            dsimp only
            refine .ite (fun _ => .of_ok rfl) fun _ => .ite (fun _ => ?_) fun _ => ?_
            · exact Settles.settled hs
            · refine (Settled.of_ok rfl).bind fun {_ t} hmove => ?_
              cases hmove
              have hlen := length_binaryOperator? hoperator
              have hrest : State.Leaves n 8 ⟨rest, s.leftover⟩ :=
                hs.eight ⟨binaryOperator?_suffix hoperator, id⟩ hlen
              exact SettlesBelow.settled hrest (Nat.lt_of_lt_of_le hlen (Nat.le_of_lt_succ hk))

instance (braces : Bool) (base : Precedence) (lhs : Expr) :
    Settles n r (climbRule g braces base lhs) (climbRule g' braces base lhs) := by
  unfold climbRule
  exact .of_length (fun k => climbing g braces base k lhs) fun k => climbing g' braces base k lhs

/-! ## Atoms, what trails them, and prefix operators -/

omit [ConsumesGrammar g] in
theorem consumes_of_blockExpr? {ts : Rest} {form : Parser Unit}
    (h : blockExpr? g ts = some form) : Consumes form := by
  apply blockExpr?_cases g h <;> infer_instance

theorem rel_ite {α β : Type} {R : α → β → Prop} {c : Prop} [Decidable c] {a b : Option α}
    {a' b' : Option β} (ha : Option.Rel R a a') (hb : Option.Rel R b b') :
    Option.Rel R (if c then a else b) (if c then a' else b') := by
  split
  · exact ha
  · exact hb

/-- Over both grammars the same form stands here, or none. -/
theorem blockExpr?_settles (ts : Rest) :
    Option.Rel (fun p q => Forward p ∧ Consumes p ∧ Settles n r p q)
      (blockExpr? g ts) (blockExpr? g' ts) := by
  unfold blockExpr?
  repeat' apply rel_ite
  all_goals first
    | exact .none
    | exact .some ⟨inferInstance, inferInstance, inferInstance⟩

instance (braces : Bool) : Consumes (atom g braces) := by
  unfold atom
  refine Consumes.bind _ fun ts => ?_
  cases hf : blockExpr? g ts with
  | none => infer_instance
  | some form =>
      have := forward_of_blockExpr? g hf
      have := consumes_of_blockExpr? g hf
      infer_instance

instance (braces : Bool) : Settles n r (atom g braces) (atom g' braces) := by
  unfold atom
  refine Settles.bind _ _ fun ts => ?_
  have forms := blockExpr?_settles (n := n) (r := r) g g' ts
  generalize blockExpr? g ts = form?, blockExpr? g' ts = form'? at forms ⊢
  repeat' apply Settles.ite
  case' hq =>
    cases forms with
    | none => infer_instance
    | some form =>
        obtain ⟨_, _, _⟩ := form
        infer_instance
  all_goals infer_instance

instance (e : Expr) : Settles n r (projection g e) (projection g' e) := by
  unfold projection
  refine Settles.bind _ _ fun awaited => ?_
  split
  · infer_instance
  · refine Settles.bind _ _ fun m => ?_
    cases m <;> dsimp only <;> infer_instance

instance (e : Expr) : Settles n r (behindPoint g e) (behindPoint g' e) := by
  refine Settles.of_look fun ts => ?_
  split
  · split
    · exact .of_settles _ _
    · exact .moveTo_bind (List.suffix_cons _ _) (Nat.lt_succ_self _) inferInstance
  · exact .of_settles _ _

instance (k : Nat) (e : Expr) : SettlesBelow n r k (trailing g k e) (trailing g' k e) := by
  induction k generalizing r e with
  | zero => exact .zero _ _
  | succ k ih => unfold trailing; infer_instance

instance (e : Expr) : Settles n r (trailers g e) (trailers g' e) := by
  unfold trailers
  exact .of_length (fun k => trailing g k e) fun k => trailing g' k e

instance : Settles n r referenceMarks referenceMarks := by
  unfold referenceMarks
  infer_instance

theorem length_drop_operator {ts : Rest} (h : ts.atAnySymbol ["*", "!", "-"] = true) :
    (ts.drop 1).length < ts.length := by
  cases ts with
  | nil => cases h
  | cons t ts => exact Nat.lt_succ_self _

instance (braces : Bool) : Consumes (unaryRule g braces) := by
  unfold unaryRule
  refine Consumes.bind _ fun attrs => Consumes.of_look fun ts => ?_
  split
  · exact .of_consumes _
  · split
    · next h => exact (ConsumesFrom.moveTo (length_drop_operator h)).bind inferInstance
    · exact .of_consumes _

instance (braces : Bool) : Settles n r (unaryRule g braces) (unaryRule g' braces) := by
  unfold unaryRule
  refine Settles.bind _ _ fun attrs => Settles.of_look fun ts => ?_
  split
  · exact .of_settles _ _
  · split
    · next h =>
      exact .moveTo_bind (List.drop_suffix _ _) (length_drop_operator h) inferInstance
    · exact .of_settles _ _

instance (braces : Bool) : Consumes (exprRule g braces) := by
  unfold exprRule
  infer_instance

instance (braces : Bool) : Settles n (r + 1) (exprRule g braces) (exprRule g' braces) := by
  unfold exprRule
  infer_instance

instance : Consumes (earlyRule g) := by
  unfold earlyRule
  refine Consumes.bind _ fun _ => Consumes.bind _ fun ts => ?_
  split
  · next h =>
    have := forward_of_blockExpr? g h
    have := consumes_of_blockExpr? g h
    infer_instance
  · infer_instance

instance : Settles n (r + 1) (earlyRule g) (earlyRule g') := by
  unfold earlyRule
  refine Settles.bind _ _ fun _ => Settles.bind _ _ fun ts => ?_
  have forms := blockExpr?_settles (n := n) (r := r + 1) g g' ts
  generalize blockExpr? g ts = form?, blockExpr? g' ts = form'? at forms ⊢
  cases forms with
  | none => infer_instance
  | some form =>
      obtain ⟨_, _, _⟩ := form
      infer_instance

/-! ## Statements -/

instance : Consumes (binding g) := by
  unfold binding
  dsimp only
  infer_instance

instance : Settles n r (binding g) (binding g') := by
  unfold binding
  dsimp only
  infer_instance

instance : Consumes invocationStmt := by
  unfold invocationStmt
  dsimp only
  infer_instance

instance : Settles n r invocationStmt invocationStmt := by
  unfold invocationStmt
  dsimp only
  infer_instance

/-- An item is read from where the statement began, everything else from behind its attributes. -/
instance : Consumes (stmt g) := by
  refine ⟨fun {s t a} h => ?_⟩
  obtain ⟨start, u, hs, h⟩ := ok_of_bind h
  cases hs
  obtain ⟨_, u₁, h₁, h⟩ := ok_of_bind h
  obtain ⟨kind, u₂, h₂, h⟩ := ok_of_bind h
  obtain ⟨ts, u₃, h₃, h⟩ := ok_of_bind h
  have hu : u₃.rest.length ≤ s.rest.length :=
    Nat.le_trans (Forward.length_le h₃)
      (Nat.le_trans (Forward.length_le h₂) (Forward.length_le h₁))
  have again : ∀ {v b}, (do set s; discard g.item; return Stmt.item : Parser Stmt) u₃ = .ok (b, v) →
      v.rest.length < s.rest.length := by
    intro v b hv
    obtain ⟨_, w, hw, hv⟩ := ok_of_bind hv
    cases hw
    exact Consumes.shorter hv
  generalize kind.getD .none = k at h
  cases k with
  | braced => exact Nat.lt_of_lt_of_le (Consumes.shorter h) hu
  | definition => exact again h
  | none =>
      dsimp only at h
      split at h
      · exact Nat.lt_of_lt_of_le (Consumes.shorter h) hu
      · split at h
        · exact again h
        · obtain ⟨e, u₄, h₄, h⟩ := ok_of_bind h
          obtain ⟨ended, u₅, h₅, h⟩ := ok_of_bind h
          have hu₅ : u₅.rest.length < s.rest.length := Nat.lt_of_le_of_lt (Forward.length_le h₅)
            (Nat.lt_of_lt_of_le (Consumes.shorter h₄) hu)
          split at h
          · split at h <;> cases h <;> exact hu₅
          · cases h
            exact hu₅

instance : Settles n (r + 2) (stmt g) (stmt g') := by
  refine ⟨fun {s} hs => ?_⟩
  refine (Settled.of_ok rfl).bind fun {start u} hstart => ?_
  cases hstart
  refine (Settles.settled hs).bind fun {_ u₁} h₁ => ?_
  have hu₁ := hs.ahead (Forward.leads h₁)
  refine (Settles.settled hu₁).bind fun {kind u₂} h₂ => ?_
  have hu₂ := hu₁.ahead (Forward.leads h₂)
  refine (Settles.settled hu₂).bind fun {ts u₃} h₃ => ?_
  have hu₃ := hu₂.ahead (Forward.leads h₃)
  have again : Settled u₃ (do set s; discard g.item; return Stmt.item : Parser Stmt)
      (do set s; discard g'.item; return Stmt.item) := by
    refine (Settled.of_ok rfl).bind fun {_ v} hset => ?_
    cases hset
    exact Settles.settled hs
  generalize kind.getD .none = k
  cases k with
  | braced => exact Settles.settled hu₃
  | definition => exact again
  | none =>
      refine .ite (fun _ => Settles.settled hu₃) fun _ => .ite (fun _ => again) fun _ => ?_
      refine (Settles.settled hu₃).bind fun {e u₄} h₄ => ?_
      have hu₄ := hu₃.ahead (Forward.leads h₄)
      refine (Settles.settled hu₄).bind fun {ended u₅} h₅ => ?_
      have hu₅ := hu₄.ahead (Forward.leads h₅)
      cases e with
      | invocation d => exact Settles.settled hu₅
      | _ => exact Settles.settled hu₅

instance : Consumes (stmtThenGap g) := by
  unfold stmtThenGap
  infer_instance

instance : Settles n (r + 2) (stmtThenGap g) (stmtThenGap g') := by
  unfold stmtThenGap
  infer_instance

instance : Settles n (r + 2) (stmtsRule g) (stmtsRule g') := by
  unfold stmtsRule
  infer_instance

/-! ## Functions -/

instance : Settles n r (receiver g) (receiver g') := by
  unfold receiver
  dsimp only
  infer_instance

instance : Settles n (r + 1) (param g) (param g') := by
  unfold param
  refine Settles.bind _ _ fun _ => Settles.bind _ _ fun b => ?_
  split
  · infer_instance
  · refine Settles.bind _ _ fun m => ?_
    cases m <;> infer_instance

instance (first : Bool) (k : Nat) :
    SettlesBelow n (r + 1) k (params g first k) (params g' first k) := by
  induction k generalizing r first with
  | zero => exact .zero _ _
  | succ k ih =>
      unfold params
      dsimp only
      refine SettlesBelow.bind _ _ fun empty => ?_
      split
      · infer_instance
      · refine SettlesBelow.bind _ _ fun p => ?_
        cases p <;> infer_instance

instance (safe : Bool) : Settles n r (functionMarks safe) (functionMarks safe) := by
  unfold functionMarks
  dsimp only
  infer_instance

instance (safe : Bool) : Settles n r (atSignature safe) (atSignature safe) := by
  unfold atSignature
  infer_instance

instance (safe : Bool) : Consumes (signature g safe) := by
  unfold signature
  infer_instance

instance (safe : Bool) : Settles n r (signature g safe) (signature g' safe) := by
  have : Settles n 8 _ _ := .of_length (params g true) (params g' true)
  unfold signature
  infer_instance

end NodeIdGen.Syntax
