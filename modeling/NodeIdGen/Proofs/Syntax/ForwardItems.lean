import NodeIdGen.Proofs.Syntax.ForwardExpressions
import NodeIdGen.Syntax.Bitflags

/-!
# Items go forward

With the items, every rule of the grammar is known to go forward, and so by induction on the depth
is the grammar whose parts may be nested so deep.
-/

namespace NodeIdGen.Syntax

open NodeIdGen.Syntax.Parser

set_option synthInstance.maxSize 100000

variable (g : Grammar) [ForwardGrammar g]

/-! ## Items -/

instance (n : Nat) : Forward (namedFields g n) := by
  induction n with
  | zero => unfold namedFields; infer_instance
  | succ n ih => unfold namedFields; dsimp only; infer_instance

instance : Forward (bracedFields g) := by
  unfold bracedFields
  infer_instance

instance : Forward (positionalField g) := by
  unfold positionalField
  infer_instance

instance : Forward (positionalFields g) := by
  unfold positionalFields
  infer_instance

instance : Forward (structBody g) := by
  unfold structBody
  infer_instance

instance (attrs : List Attribute) : Forward (structItem g attrs) := by
  unfold structItem
  infer_instance

instance : Forward (alternative g) := by
  unfold alternative
  dsimp only
  infer_instance

instance (attrs : List Attribute) : Forward (enumItem g attrs) := by
  unfold enumItem
  infer_instance

instance : Forward (unionItem g) := by
  unfold unionItem
  infer_instance

instance (root : Bool) : Forward (useTreeRule g root) := by
  unfold useTreeRule
  dsimp only
  infer_instance

instance : Forward (useItem g) := by
  unfold useItem
  infer_instance

instance : Forward invocationItem := by
  unfold invocationItem
  dsimp only
  infer_instance

instance : Forward invocationMember := by
  unfold invocationMember
  dsimp only
  infer_instance

instance : Forward newMacroItem := by
  unfold newMacroItem
  dsimp only
  infer_instance

instance : Forward (constantRest g) := by
  unfold constantRest
  dsimp only
  infer_instance

instance : Forward (constantItem g) := by
  unfold constantItem
  dsimp only
  infer_instance

instance : Forward (staticItem g) := by
  unfold staticItem
  infer_instance

instance : Forward (aliasBounds g) := by
  unfold aliasBounds
  infer_instance

instance (place : WherePlace) : Forward (aliasRest g place) := by
  unfold aliasRest
  dsimp only
  infer_instance

instance : Forward (aliasItem g) := by
  unfold aliasItem
  dsimp only
  infer_instance

instance : Forward (functionItem g) := by
  unfold functionItem
  infer_instance

instance : Forward (traitFunction g) := by
  unfold traitFunction
  infer_instance

instance : Forward (traitMember g) := by
  unfold traitMember
  infer_instance

instance : Forward (traitRest g) := by
  unfold traitRest
  dsimp only
  infer_instance

instance : Forward (traitItem g) := by
  unfold traitItem
  infer_instance

instance : Forward (traitOrAliasItem g) := by
  unfold traitOrAliasItem
  infer_instance

instance : Forward (implMember g) := by
  unfold implMember
  dsimp only
  infer_instance

instance (negative : Bool) : Forward (implTarget g negative) := by
  unfold implTarget
  refine Forward.bind _ fun first => ?_
  cases first <;> infer_instance

instance (attrs : List Attribute) (visible : Bool) : Forward (implItem g attrs visible) := by
  unfold implItem
  dsimp only
  infer_instance

instance : Forward (moduleItem g) := by
  unfold moduleItem
  dsimp only
  infer_instance

instance : Forward (foreignStatic g) := by
  unfold foreignStatic
  dsimp only
  infer_instance

instance : Forward (foreignMember g) := by
  unfold foreignMember
  infer_instance

instance : Forward (foreignItem g) := by
  unfold foreignItem
  infer_instance

instance : Forward libraryItem := by
  unfold libraryItem
  dsimp only
  infer_instance

instance (attrs : List Attribute) (visible : Bool) : Forward (unsafeItem g attrs visible) := by
  unfold unsafeItem
  dsimp only
  infer_instance

instance : Forward (itemRule g) := by
  unfold itemRule
  infer_instance

/-! ## Whole texts -/

instance : Forward (fileItems g) := by
  unfold fileItems
  infer_instance

/-! ## Flag blocks -/

instance : Forward (flagConstant g) := by
  unfold flagConstant
  dsimp only
  infer_instance

instance : Forward (flagDecl g) := by
  unfold flagDecl
  infer_instance

instance : Forward (flagDecls g) := by
  unfold flagDecls
  infer_instance

/-! ## The grammar of a depth -/

instance (n : Nat) : ForwardGrammar (grammar n) := by
  induction n with
  | zero =>
      unfold grammar Grammar.exhausted
      constructor <;> intros <;> dsimp only <;> infer_instance
  | succ n ih =>
      unfold grammar
      constructor
      · exact inferInstanceAs (Forward (argumentsRule (grammar n)))
      · exact fun plus => inferInstanceAs (Forward (tyRule (grammar n) plus))
      · exact fun braces => inferInstanceAs (Forward (exprRule (grammar n) braces))
      · exact fun braces => inferInstanceAs (Forward (unaryRule (grammar n) braces))
      · exact fun braces p e => inferInstanceAs (Forward (climbRule (grammar n) braces p e))
      · exact inferInstanceAs (Forward (earlyRule (grammar n)))
      · exact inferInstanceAs (Forward (patRule (grammar n)))
      · exact inferInstanceAs (Forward (stmtsRule (grammar n)))
      · exact inferInstanceAs (Forward (itemRule (grammar n)))
      · exact fun root => inferInstanceAs (Forward (useTreeRule (grammar n) root))

end NodeIdGen.Syntax
