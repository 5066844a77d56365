import NodeIdGen.Proofs.Syntax.Forward
import NodeIdGen.Syntax.Pattern

/-!
# Types and patterns go forward

Each rule is made of parts that go forward, so its instance is found by looking through its
definition. Only a rule that moves by itself, or that goes on by cases on what it has read, is taken
apart by hand.
-/

namespace NodeIdGen.Syntax

open NodeIdGen.Syntax.Parser

-- a long rule is a deep term of binds
set_option synthInstance.maxSize 100000

/-- Every rule that a grammar passes on goes forward. -/
class ForwardGrammar (g : Grammar) : Prop where
  arguments : Forward g.arguments
  ty (plus : Bool) : Forward (g.ty plus)
  expr (braces : Bool) : Forward (g.expr braces)
  unary (braces : Bool) : Forward (g.unary braces)
  climb (braces : Bool) (p : Precedence) (e : Expr) : Forward (g.climb braces p e)
  early : Forward g.early
  pat : Forward g.pat
  stmts : Forward g.stmts
  item : Forward g.item
  useTree (root : Bool) : Forward (g.useTree root)

attribute [instance] ForwardGrammar.arguments ForwardGrammar.ty ForwardGrammar.expr
  ForwardGrammar.unary ForwardGrammar.climb ForwardGrammar.early ForwardGrammar.pat
  ForwardGrammar.stmts ForwardGrammar.item ForwardGrammar.useTree

/-- Behind a part that goes forward, the rest of a rule may be shown case by case. -/
theorem Forward.bind {α β : Type} (p : Parser α) {f : α → Parser β} [Forward p]
    (h : ∀ a, Forward (f a)) : Forward (p >>= f) :=
  inferInstance

variable (g : Grammar) [ForwardGrammar g]

/-! ## Attributes -/

instance : Forward plainPath := by
  unfold plainPath
  infer_instance

instance : Forward attributePath := by
  unfold attributePath
  infer_instance

instance : Forward (attributeContent g) := by
  unfold attributeContent
  infer_instance

instance : Forward (outerAttribute g) := by
  unfold outerAttribute
  infer_instance

instance : Forward (outerAttributes g) := by
  unfold outerAttributes
  infer_instance

instance : Forward (innerAttribute g) := by
  unfold innerAttribute
  infer_instance

instance : Forward (innerAttributes g) := by
  unfold innerAttributes
  infer_instance

instance : Forward restriction := by
  refine Forward.of_look fun ts => ?_
  split
  · refine .ite (.ite ?_ (.of_forward _)) (.of_forward _)
    exact (ForwardFrom.moveTo (List.suffix_cons _ _)).bind inferInstance
  · exact .of_forward _

instance : Forward visibility := by
  unfold visibility
  infer_instance

/-! ## Bounds and paths -/

instance (style : PathStyle) : Forward (segment g style) := by
  unfold segment
  dsimp only
  infer_instance

instance (style : PathStyle) : Forward (path g style) := by
  unfold path
  infer_instance

instance (style : PathStyle) : Forward (qualifiedPath g style) := by
  unfold qualifiedPath
  dsimp only
  infer_instance

instance (plus : Bool) : Forward (output g plus) := by
  unfold output
  infer_instance

instance : Forward (binder? g) := by
  unfold binder?
  infer_instance

instance : Forward capture := by
  unfold capture
  infer_instance

instance (p : Path) : Forward (roundArguments? g p) := by
  unfold roundArguments?
  dsimp only
  infer_instance

instance (allowed : Bool) : Forward (constMark allowed) := by
  unfold constMark
  infer_instance

instance (const : Bool) : Forward (traitBound g const) := by
  unfold traitBound
  dsimp only
  infer_instance

instance (captures const : Bool) : Forward (bound g captures const) := by
  unfold bound
  infer_instance

instance (plus captures const : Bool) (demand : String) :
    Forward (objectBounds g plus captures const demand) := by
  unfold objectBounds
  infer_instance

instance (stop : Rest → Bool) : Forward (bounds g stop) := by
  unfold bounds
  infer_instance

/-! ## Generic parameters -/

instance : Forward (body g) := by
  unfold body
  infer_instance

instance : Forward (constArgument g) := by
  unfold constArgument
  infer_instance

instance : Forward (associated? g) := by
  unfold associated?
  infer_instance

instance : Forward (genericArgument g) := by
  unfold genericArgument
  refine Forward.of_look fun ts => .ite (.of_forward _) (.ite (.of_forward _) ?_)
  refine (ForwardFrom.of_forward (g.ty true)).bind fun t => ?_
  cases t <;> infer_instance

instance : Forward (argumentsRule g) := by
  unfold argumentsRule
  infer_instance

instance (stop : Rest → Bool) : Forward (lifetimeBounds stop) := by
  unfold lifetimeBounds
  infer_instance

instance : Forward (genericParameter g) := by
  unfold genericParameter
  dsimp only
  infer_instance

instance : Forward (generics? g) := by
  unfold generics?
  infer_instance

instance : Forward (generics g) := by
  unfold generics
  infer_instance

instance : Forward (wherePredicate g) := by
  unfold wherePredicate
  infer_instance

instance : Forward (whereClause g) := by
  unfold whereClause
  dsimp only
  infer_instance

/-! ## Types -/

instance (qualified : Bool) (p : Path) : Forward (invocation? qualified p) := by
  unfold invocation?
  infer_instance

instance : Forward (abi? ) := by
  unfold abi?
  dsimp only
  infer_instance

instance : Forward (furtherBounds g) := by
  unfold furtherBounds
  infer_instance

instance : Forward (roundContent g) := by
  unfold roundContent
  infer_instance

instance (plus : Bool) : Forward (roundType g plus) := by
  unfold roundType
  refine Forward.bind _ fun c => ?_
  cases c <;> infer_instance

instance (first : Bool) : Forward (functionTypeParam g first) := by
  unfold functionTypeParam
  dsimp only
  infer_instance

instance (first : Bool) (n : Nat) : Forward (functionTypeParams g first n) := by
  induction n generalizing first with
  | zero => unfold functionTypeParams; infer_instance
  | succ n ih => unfold functionTypeParams; dsimp only; infer_instance

instance : Forward (functionType g) := by
  unfold functionType
  infer_instance

instance (plus binds : Bool) : Forward (pathType g plus binds) := by
  unfold pathType
  dsimp only
  infer_instance

instance : Forward (pointerType g) := by
  unfold pointerType
  infer_instance

instance : Forward (arrayContent g) := by
  unfold arrayContent
  infer_instance

instance (plus binds : Bool) : Forward (unboundType g plus binds) := by
  unfold unboundType
  infer_instance

instance (plus : Bool) : Forward (tyRule g plus) := by
  unfold tyRule
  infer_instance

/-! ## Patterns -/

instance : Forward (alternatives g) := by
  unfold alternatives
  infer_instance

instance : Forward (patBound g) := by
  unfold patBound
  infer_instance

instance (three : Bool) : Forward (rangePoints three) := by
  unfold rangePoints
  infer_instance

instance : Forward (patRangeEnd g) := by
  unfold patRangeEnd
  infer_instance

instance : Forward (patHalfRange g) := by
  unfold patHalfRange
  infer_instance

instance : Forward (patLiteral g) := by
  unfold patLiteral
  infer_instance

instance : Forward (patList g) := by
  unfold patList
  infer_instance

instance : Forward member := by
  refine Forward.of_look fun ts => ?_
  split
  · exact .ite (.of_forward _) ((ForwardFrom.moveTo (List.suffix_cons _ _)).bind inferInstance)
  · refine .ite (.ite ?_ (.of_forward _)) (.of_forward _)
    exact (ForwardFrom.moveTo (List.suffix_cons _ _)).bind inferInstance
  · exact .of_forward _

instance : Forward (patField g) := by
  unfold patField
  dsimp only
  infer_instance

instance (n : Nat) : Forward (patFields g n) := by
  induction n with
  | zero => unfold patFields; infer_instance
  | succ n ih => unfold patFields; infer_instance

instance : Forward (patPath g) := by
  unfold patPath
  dsimp only
  infer_instance

instance : Forward (patName g) := by
  unfold patName
  dsimp only
  infer_instance

instance : Forward (patRule g) := by
  unfold patRule
  infer_instance

end NodeIdGen.Syntax
