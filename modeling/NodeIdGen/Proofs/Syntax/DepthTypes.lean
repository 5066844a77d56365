import NodeIdGen.Proofs.Syntax.Depth
import NodeIdGen.Proofs.Syntax.ForwardTypes

/-!
# Types and patterns come to an end

A rule that starts by passing on what it was given to another rule needs room for it, which its
instance says by a successor. All other rules read a token first, or look inside a group.
-/

namespace NodeIdGen.Syntax

open NodeIdGen.Syntax.Parser

-- a long rule is a deep term of binds
set_option synthInstance.maxSize 100000

/-- The rules on whose progress loops rely read a token. -/
class ConsumesGrammar (g : Grammar) : Prop where
  unary (braces : Bool) : Consumes (g.unary braces)
  early : Consumes g.early
  item : Consumes g.item

attribute [instance] ConsumesGrammar.unary ConsumesGrammar.early ConsumesGrammar.item

/-- Over the first grammar no rule runs out of a depth of `n`, and the second does what it does. An
expression starts with an operand, and a statement may start with an expression; these need more
room than the others. -/
class SettlesGrammar (n : Nat) (g g' : Grammar) : Prop where
  arguments : Settles n 1 g.arguments g'.arguments
  ty (plus : Bool) : Settles n 1 (g.ty plus) (g'.ty plus)
  expr (braces : Bool) : Settles n 2 (g.expr braces) (g'.expr braces)
  unary (braces : Bool) : Settles n 1 (g.unary braces) (g'.unary braces)
  climb (braces : Bool) (p : Precedence) (e : Expr) :
    Settles n 1 (g.climb braces p e) (g'.climb braces p e)
  early : Settles n 2 g.early g'.early
  pat : Settles n 1 g.pat g'.pat
  stmts : Settles n 3 g.stmts g'.stmts
  item : Settles n 1 g.item g'.item
  useTree (root : Bool) : Settles n 1 (g.useTree root) (g'.useTree root)

theorem SettlesGrammar.of_le {m n : Nat} {g g' : Grammar} (h : SettlesGrammar n g g') (hm : m ≤ n) :
    SettlesGrammar m g g' where
  arguments := h.arguments.of_le hm
  ty plus := (h.ty plus).of_le hm
  expr braces := (h.expr braces).of_le hm
  unary braces := (h.unary braces).of_le hm
  climb braces p e := (h.climb braces p e).of_le hm
  early := h.early.of_le hm
  pat := h.pat.of_le hm
  stmts := h.stmts.of_le hm
  item := h.item.of_le hm
  useTree root := (h.useTree root).of_le hm

variable {n r : Nat} (g g' : Grammar)

section Grammar

variable [h : SettlesGrammar n g g']

instance : Settles n (r + 1) g.arguments g'.arguments :=
  h.arguments.mono (Nat.le_add_left 1 r)

instance (plus : Bool) : Settles n (r + 1) (g.ty plus) (g'.ty plus) :=
  (h.ty plus).mono (Nat.le_add_left 1 r)

instance (braces : Bool) : Settles n (r + 2) (g.expr braces) (g'.expr braces) :=
  (h.expr braces).mono (Nat.le_add_left 2 r)

instance (braces : Bool) : Settles n (r + 1) (g.unary braces) (g'.unary braces) :=
  (h.unary braces).mono (Nat.le_add_left 1 r)

instance (braces : Bool) (p : Precedence) (e : Expr) :
    Settles n (r + 1) (g.climb braces p e) (g'.climb braces p e) :=
  (h.climb braces p e).mono (Nat.le_add_left 1 r)

instance : Settles n (r + 2) g.early g'.early := h.early.mono (Nat.le_add_left 2 r)

instance : Settles n (r + 1) g.pat g'.pat := h.pat.mono (Nat.le_add_left 1 r)

instance : Settles n (r + 3) g.stmts g'.stmts := h.stmts.mono (Nat.le_add_left 3 r)

instance : Settles n (r + 1) g.item g'.item := h.item.mono (Nat.le_add_left 1 r)

instance (root : Bool) : Settles n (r + 1) (g.useTree root) (g'.useTree root) :=
  (h.useTree root).mono (Nat.le_add_left 1 r)

end Grammar

/-- Behind a part that goes forward, the rest of a rule may be shown case by case. -/
theorem Settles.bind {α β : Type} (p q : Parser α) {f k : α → Parser β} [Forward p]
    [Settles n r p q] (h : ∀ a, Settles n r (f a) (k a)) : Settles n r (p >>= f) (q >>= k) :=
  inferInstance

variable [ForwardGrammar g] [SettlesGrammar n g g']

/-! ## Attributes -/

instance : Settles n r plainPath plainPath := by
  unfold plainPath
  infer_instance

instance : Settles n r attributePath attributePath := by
  unfold attributePath
  infer_instance

instance : Settles n r (attributeContent g) (attributeContent g') := by
  unfold attributeContent
  infer_instance

instance : Consumes (outerAttribute g) := by
  unfold outerAttribute
  infer_instance

instance : Settles n r (outerAttribute g) (outerAttribute g') := by
  unfold outerAttribute
  infer_instance

instance : Settles n r (outerAttributes g) (outerAttributes g') := by
  unfold outerAttributes
  infer_instance

instance : Consumes (innerAttribute g) := by
  unfold innerAttribute
  infer_instance

instance : Settles n r (innerAttribute g) (innerAttribute g') := by
  unfold innerAttribute
  infer_instance

instance : Settles n r (innerAttributes g) (innerAttributes g') := by
  unfold innerAttributes
  infer_instance

instance : Settles n r restriction restriction := by
  refine Settles.of_look fun ts => ?_
  split
  · exact .of_settles _ _
  · exact .of_settles _ _

instance : Settles n r visibility visibility := by
  unfold visibility
  infer_instance

/-! ## Bounds and paths -/

instance (style : PathStyle) : Consumes (segment g style) := by
  unfold segment
  dsimp only
  infer_instance

instance (style : PathStyle) : Settles n r (segment g style) (segment g' style) := by
  unfold segment
  dsimp only
  infer_instance

instance (style : PathStyle) : Consumes (path g style) := by
  unfold path
  infer_instance

instance (style : PathStyle) : Settles n r (path g style) (path g' style) := by
  unfold path
  infer_instance

instance (style : PathStyle) : Consumes (qualifiedPath g style) := by
  unfold qualifiedPath
  dsimp only
  infer_instance

instance (style : PathStyle) : Settles n r (qualifiedPath g style) (qualifiedPath g' style) := by
  unfold qualifiedPath
  dsimp only
  infer_instance

instance (plus : Bool) : Settles n r (output g plus) (output g' plus) := by
  unfold output
  infer_instance

instance : Settles n r (binder? g) (binder? g') := by
  unfold binder?
  infer_instance

instance : Settles n r capture capture := by
  unfold capture
  infer_instance

instance (p : Path) : Settles n r (roundArguments? g p) (roundArguments? g' p) := by
  unfold roundArguments?
  dsimp only
  infer_instance

instance (allowed : Bool) : Settles n r (constMark allowed) (constMark allowed) := by
  unfold constMark
  infer_instance

instance (const : Bool) : Settles n r (traitBound g const) (traitBound g' const) := by
  unfold traitBound
  dsimp only
  infer_instance

instance (captures const : Bool) :
    Settles n r (bound g captures const) (bound g' captures const) := by
  unfold bound
  infer_instance

instance (plus captures const : Bool) (demand : String) :
    Settles n r (objectBounds g plus captures const demand)
      (objectBounds g' plus captures const demand) := by
  unfold objectBounds
  infer_instance

instance (stop : Rest → Bool) : Settles n r (bounds g stop) (bounds g' stop) := by
  unfold bounds
  infer_instance

/-! ## Generic parameters -/

instance : Consumes (body g) := by
  unfold body
  infer_instance

instance : Settles n r (body g) (body g') := by
  unfold body
  infer_instance

instance : Settles n r (constArgument g) (constArgument g') := by
  unfold constArgument
  infer_instance

instance : Settles n r (associated? g) (associated? g') := by
  unfold associated?
  infer_instance

instance : Settles n (r + 1) (genericArgument g) (genericArgument g') := by
  unfold genericArgument
  refine Settles.bind _ _ fun ts => ?_
  split
  · infer_instance
  · split
    · infer_instance
    · refine Settles.bind _ _ fun t => ?_
      cases t <;> infer_instance

instance : Settles n r (argumentsRule g) (argumentsRule g') := by
  unfold argumentsRule
  infer_instance

instance (stop : Rest → Bool) : Settles n r (lifetimeBounds stop) (lifetimeBounds stop) := by
  unfold lifetimeBounds
  infer_instance

instance : Settles n r (genericParameter g) (genericParameter g') := by
  unfold genericParameter
  dsimp only
  infer_instance

instance : Settles n r (generics? g) (generics? g') := by
  unfold generics?
  infer_instance

instance : Settles n r (generics g) (generics g') := by
  unfold generics
  infer_instance

instance : Settles n (r + 1) (wherePredicate g) (wherePredicate g') := by
  unfold wherePredicate
  infer_instance

instance : Settles n r (whereClause g) (whereClause g') := by
  unfold whereClause
  dsimp only
  infer_instance

/-! ## Types -/

instance (qualified : Bool) (p : Path) :
    Settles n r (invocation? qualified p) (invocation? qualified p) := by
  unfold invocation?
  infer_instance

instance : Settles n r abi? abi? := by
  unfold abi?
  dsimp only
  infer_instance

instance : Settles n r (furtherBounds g) (furtherBounds g') := by
  unfold furtherBounds
  infer_instance

instance : Settles n (r + 1) (roundContent g) (roundContent g') := by
  unfold roundContent
  infer_instance

instance (plus : Bool) : Settles n r (roundType g plus) (roundType g' plus) := by
  unfold roundType
  refine Settles.bind _ _ fun c => ?_
  cases c <;> infer_instance

instance (first : Bool) :
    Settles n (r + 1) (functionTypeParam g first) (functionTypeParam g' first) := by
  unfold functionTypeParam
  dsimp only
  infer_instance

instance (first : Bool) (k : Nat) :
    SettlesBelow n (r + 1) k (functionTypeParams g first k) (functionTypeParams g' first k) := by
  induction k generalizing r first with
  | zero => exact .zero _ _
  | succ k ih => unfold functionTypeParams; dsimp only; infer_instance

instance : Settles n r (functionType g) (functionType g') := by
  have : Settles n 8 _ _ := .of_length (functionTypeParams g true) (functionTypeParams g' true)
  unfold functionType
  infer_instance

instance (plus binds : Bool) : Settles n r (pathType g plus binds) (pathType g' plus binds) := by
  unfold pathType
  dsimp only
  infer_instance

instance : Settles n (r + 1) (pointerType g) (pointerType g') := by
  unfold pointerType
  infer_instance

instance : Settles n (r + 1) (arrayContent g) (arrayContent g') := by
  unfold arrayContent
  infer_instance

instance (plus binds : Bool) :
    Settles n r (unboundType g plus binds) (unboundType g' plus binds) := by
  unfold unboundType
  infer_instance

instance (plus : Bool) : Settles n r (tyRule g plus) (tyRule g' plus) := by
  unfold tyRule
  infer_instance

/-! ## Patterns -/

instance : Settles n (r + 1) (alternatives g) (alternatives g') := by
  unfold alternatives
  infer_instance

instance : Settles n r (patBound g) (patBound g') := by
  unfold patBound
  infer_instance

instance (three : Bool) : Consumes (rangePoints three) := by
  unfold rangePoints
  infer_instance

instance (three : Bool) : Settles n r (rangePoints three) (rangePoints three) := by
  unfold rangePoints
  infer_instance

instance : Settles n r (patRangeEnd g) (patRangeEnd g') := by
  unfold patRangeEnd
  infer_instance

instance : Settles n r (patHalfRange g) (patHalfRange g') := by
  unfold patHalfRange
  infer_instance

instance : Settles n r (patLiteral g) (patLiteral g') := by
  unfold patLiteral
  infer_instance

instance : Settles n (r + 1) (patList g) (patList g') := by
  unfold patList
  infer_instance

instance : Settles n r member member := by
  refine Settles.of_look fun ts => ?_
  split
  · exact .of_settles _ _
  · exact .of_settles _ _
  · exact .of_settles _ _

instance : Settles n r (patField g) (patField g') := by
  unfold patField
  dsimp only
  infer_instance

instance (k : Nat) : SettlesBelow n r k (patFields g k) (patFields g' k) := by
  induction k generalizing r with
  | zero => exact .zero _ _
  | succ k ih => unfold patFields; infer_instance

instance : Settles n r (patPath g) (patPath g') := by
  have : Settles n 8 _ _ := .of_length (patFields g) (patFields g')
  unfold patPath
  dsimp only
  infer_instance

instance : Settles n r (patName g) (patName g') := by
  unfold patName
  dsimp only
  infer_instance

instance : Settles n r (patRule g) (patRule g') := by
  unfold patRule
  infer_instance

end NodeIdGen.Syntax
