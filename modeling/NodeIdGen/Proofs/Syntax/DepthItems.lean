import NodeIdGen.Proofs.Syntax.DepthExpressions
import NodeIdGen.Proofs.Syntax.ForwardItems

/-!
# Items come to an end

With the items, each rule is known to be settled where the tokens leave enough of the depth. So by
induction on the depth the grammar whose parts may nest so deep is settled too, next to any that is
deeper. The bound on the nesting of a text leaves room for all of its tokens: no text is refused for
how deep it nests, and more depth would change nothing.
-/

namespace NodeIdGen.Syntax

open NodeIdGen.Syntax.Parser

set_option synthInstance.maxSize 100000

variable {n r : Nat} (g g' : Grammar) [ForwardGrammar g] [ConsumesGrammar g] [SettlesGrammar n g g']

/-! ## Items -/

omit [ConsumesGrammar g] in
/-- Fields without a name nest in groups, and a group has more tokens than the groups inside it. So
the induction on how deep they may nest takes no more of the depth than the group leaves. -/
theorem namedFields_settled {k : Nat} {s : State} (hs : s.Leaves n r)
    (hk : countAll (s.rest.take 1) < k) : Settled s (namedFields g k) (namedFields g' k) := by
  induction k generalizing n r s with
  | zero => exact absurd hk (Nat.not_lt_zero _)
  | succ k ih =>
      unfold namedFields
      refine settled_group fun content after hrest => ?_
      have hcontent : countAll content < k := by
        simp only [hrest, List.take_succ_cons, List.take_zero, countAll, Token.count] at hk
        omega
      have inside : State.Leaves (8 * countAll content + 8) 8 ⟨content, s.leftover⟩ :=
        Nat.le_refl _
      have less : 8 * countAll content + 8 ≤ n := by
        rw [State.Leaves, hrest, countAll, Token.count] at hs
        omega
      have : SettlesGrammar (8 * countAll content + 8) g g' := SettlesGrammar.of_le ‹_› less
      have nested : Settles (8 * countAll content + 8) 8 (namedFields g k) (namedFields g' k) := by
        refine ⟨fun {t} ht => ih ht ?_⟩
        have := countAll_take_le 1 t.rest
        unfold State.Leaves at ht
        omega
      exact Settles.settled inside

instance : Settles n r (bracedFields g) (bracedFields g') :=
  ⟨fun hs => .look_bind (namedFields_settled g g' hs (Nat.lt_succ_self _))⟩

instance : Settles n (r + 1) (positionalField g) (positionalField g') := by
  unfold positionalField
  infer_instance

instance : Settles n r (positionalFields g) (positionalFields g') := by
  unfold positionalFields
  infer_instance

instance : Settles n r (structBody g) (structBody g') := by
  unfold structBody
  infer_instance

instance (attrs : List Attribute) : Consumes (structItem g attrs) := by
  unfold structItem
  infer_instance

instance (attrs : List Attribute) : Settles n r (structItem g attrs) (structItem g' attrs) := by
  unfold structItem
  infer_instance

instance : Settles n r (alternative g) (alternative g') := by
  unfold alternative
  dsimp only
  infer_instance

instance (attrs : List Attribute) : Consumes (enumItem g attrs) := by
  unfold enumItem
  infer_instance

instance (attrs : List Attribute) : Settles n r (enumItem g attrs) (enumItem g' attrs) := by
  unfold enumItem
  infer_instance

instance : Consumes (unionItem g) := by
  unfold unionItem
  infer_instance

instance : Settles n r (unionItem g) (unionItem g') := by
  unfold unionItem
  infer_instance

instance (root : Bool) : Settles n r (useTreeRule g root) (useTreeRule g' root) := by
  unfold useTreeRule
  dsimp only
  infer_instance

instance : Consumes (useItem g) := by
  unfold useItem
  infer_instance

instance : Settles n r (useItem g) (useItem g') := by
  unfold useItem
  infer_instance

instance : Consumes invocationItem := by
  unfold invocationItem
  dsimp only
  infer_instance

instance : Settles n r invocationItem invocationItem := by
  unfold invocationItem
  dsimp only
  infer_instance

instance : Consumes invocationMember := by
  unfold invocationMember
  dsimp only
  infer_instance

instance : Settles n r invocationMember invocationMember := by
  unfold invocationMember
  dsimp only
  infer_instance

instance : Consumes newMacroItem := by
  unfold newMacroItem
  dsimp only
  infer_instance

instance : Settles n r newMacroItem newMacroItem := by
  unfold newMacroItem
  dsimp only
  infer_instance

instance : Settles n r (constantRest g) (constantRest g') := by
  unfold constantRest
  dsimp only
  infer_instance

instance : Consumes (constantItem g) := by
  unfold constantItem
  dsimp only
  infer_instance

instance : Settles n r (constantItem g) (constantItem g') := by
  unfold constantItem
  dsimp only
  infer_instance

instance : Consumes (staticItem g) := by
  unfold staticItem
  infer_instance

instance : Settles n r (staticItem g) (staticItem g') := by
  unfold staticItem
  infer_instance

instance : Settles n r (aliasBounds g) (aliasBounds g') := by
  unfold aliasBounds
  infer_instance

instance (place : WherePlace) : Consumes (aliasRest g place) := by
  unfold aliasRest
  dsimp only
  infer_instance

instance (place : WherePlace) : Settles n r (aliasRest g place) (aliasRest g' place) := by
  unfold aliasRest
  dsimp only
  infer_instance

instance : Consumes (aliasItem g) := by
  unfold aliasItem
  dsimp only
  infer_instance

instance : Settles n r (aliasItem g) (aliasItem g') := by
  unfold aliasItem
  dsimp only
  infer_instance

instance : Consumes (functionItem g) := by
  unfold functionItem
  infer_instance

instance : Settles n r (functionItem g) (functionItem g') := by
  unfold functionItem
  infer_instance

instance : Consumes (traitFunction g) := by
  unfold traitFunction
  infer_instance

instance : Settles n r (traitFunction g) (traitFunction g') := by
  unfold traitFunction
  infer_instance

instance : Consumes (traitMember g) := by
  unfold traitMember
  infer_instance

instance : Settles n r (traitMember g) (traitMember g') := by
  unfold traitMember
  infer_instance

instance : Consumes (traitRest g) := by
  unfold traitRest
  dsimp only
  infer_instance

instance : Settles n r (traitRest g) (traitRest g') := by
  unfold traitRest
  dsimp only
  infer_instance

instance : Consumes (traitItem g) := by
  unfold traitItem
  infer_instance

instance : Settles n r (traitItem g) (traitItem g') := by
  unfold traitItem
  infer_instance

instance : Consumes (traitOrAliasItem g) := by
  unfold traitOrAliasItem
  infer_instance

instance : Settles n r (traitOrAliasItem g) (traitOrAliasItem g') := by
  unfold traitOrAliasItem
  infer_instance

instance : Consumes (implMember g) := by
  unfold implMember
  dsimp only
  infer_instance

instance : Settles n r (implMember g) (implMember g') := by
  unfold implMember
  dsimp only
  infer_instance

instance (negative : Bool) :
    Settles n (r + 1) (implTarget g negative) (implTarget g' negative) := by
  unfold implTarget
  refine Settles.bind _ _ fun first => ?_
  cases first <;> infer_instance

instance (attrs : List Attribute) (visible : Bool) : Consumes (implItem g attrs visible) := by
  unfold implItem
  dsimp only
  infer_instance

instance (attrs : List Attribute) (visible : Bool) :
    Settles n r (implItem g attrs visible) (implItem g' attrs visible) := by
  unfold implItem
  dsimp only
  infer_instance

instance : Consumes (moduleItem g) := by
  unfold moduleItem
  dsimp only
  infer_instance

instance : Settles n r (moduleItem g) (moduleItem g') := by
  unfold moduleItem
  dsimp only
  infer_instance

instance : Settles n r (foreignStatic g) (foreignStatic g') := by
  unfold foreignStatic
  dsimp only
  infer_instance

instance : Consumes (foreignStatic g) := by
  unfold foreignStatic
  dsimp only
  infer_instance

instance : Consumes (foreignMember g) := by
  unfold foreignMember
  infer_instance

instance : Settles n r (foreignMember g) (foreignMember g') := by
  unfold foreignMember
  infer_instance

instance : Consumes (foreignItem g) := by
  unfold foreignItem
  infer_instance

instance : Settles n r (foreignItem g) (foreignItem g') := by
  unfold foreignItem
  infer_instance

instance : Consumes libraryItem := by
  unfold libraryItem
  dsimp only
  infer_instance

instance : Settles n r libraryItem libraryItem := by
  unfold libraryItem
  dsimp only
  infer_instance

instance (attrs : List Attribute) (visible : Bool) : Consumes (unsafeItem g attrs visible) := by
  unfold unsafeItem
  dsimp only
  infer_instance

instance (attrs : List Attribute) (visible : Bool) :
    Settles n r (unsafeItem g attrs visible) (unsafeItem g' attrs visible) := by
  unfold unsafeItem
  dsimp only
  infer_instance

instance : Consumes (itemRule g) := by
  unfold itemRule
  infer_instance

instance : Settles n r (itemRule g) (itemRule g') := by
  unfold itemRule
  infer_instance

/-! ## Files -/

instance : Settles n (r + 1) (fileItems g) (fileItems g') := by
  unfold fileItems
  infer_instance

/-! ## Flag blocks -/

instance : Consumes (flagConstant g) := by
  unfold flagConstant
  dsimp only
  infer_instance

instance : Settles n r (flagConstant g) (flagConstant g') := by
  unfold flagConstant
  dsimp only
  infer_instance

instance : Consumes (flagDecl g) := by
  unfold flagDecl
  infer_instance

instance : Settles n r (flagDecl g) (flagDecl g') := by
  unfold flagDecl
  infer_instance

instance : Settles n r (flagDecls g) (flagDecls g') := by
  unfold flagDecls
  infer_instance

/-! ## The grammar of a depth -/

instance (n : Nat) : ConsumesGrammar (grammar n) := by
  induction n with
  | zero =>
      unfold grammar Grammar.exhausted
      constructor <;> intros <;> dsimp only <;> infer_instance
  | succ n ih =>
      unfold grammar
      constructor
      · exact fun braces => inferInstanceAs (Consumes (unaryRule (grammar n) braces))
      · exact inferInstanceAs (Consumes (earlyRule (grammar n)))
      · exact inferInstanceAs (Consumes (itemRule (grammar n)))

/-- One more of depth is enough for one use of a rule. -/
theorem Settles.succ {α : Type} {p q : Parser α} [h : Settles n r p q] :
    Settles (n + 1) (r + 1) p q :=
  ⟨fun hs => h.settled (Nat.le_of_succ_le_succ hs)⟩

theorem Settles.of_zero {α : Type} (p q : Parser α) : Settles 0 (r + 1) p q :=
  ⟨fun hs => absurd hs (Nat.not_succ_le_zero _)⟩

/-- Where the tokens leave enough of a depth, it makes no difference how much deeper one goes. -/
theorem settlesGrammar {m n : Nat} (h : n ≤ m) : SettlesGrammar n (grammar n) (grammar m) := by
  induction n generalizing m with
  | zero => constructor <;> intros <;> exact .of_zero _ _
  | succ n ih =>
      obtain _ | m := m
      · exact absurd h (Nat.not_succ_le_zero n)
      have := ih (Nat.le_of_succ_le_succ h)
      unfold grammar
      constructor
      · exact Settles.succ (p := argumentsRule (grammar n)) (q := argumentsRule (grammar m))
      · exact fun plus => Settles.succ (p := tyRule (grammar n) plus) (q := tyRule (grammar m) plus)
      · exact fun braces => Settles.succ (p := exprRule (grammar n) braces)
          (q := exprRule (grammar m) braces)
      · exact fun braces => Settles.succ (p := unaryRule (grammar n) braces)
          (q := unaryRule (grammar m) braces)
      · exact fun braces p e => Settles.succ (p := climbRule (grammar n) braces p e)
          (q := climbRule (grammar m) braces p e)
      · exact Settles.succ (p := earlyRule (grammar n)) (q := earlyRule (grammar m))
      · exact Settles.succ (p := patRule (grammar n)) (q := patRule (grammar m))
      · exact Settles.succ (p := stmtsRule (grammar n)) (q := stmtsRule (grammar m))
      · exact Settles.succ (p := itemRule (grammar n)) (q := itemRule (grammar m))
      · exact fun root => Settles.succ (p := useTreeRule (grammar n) root)
          (q := useTreeRule (grammar m) root)

/-! ## Whole texts -/

/-- The bound on the nesting of a text leaves room for all of its tokens. -/
theorem settled_nestingBound {α : Type} {p : Grammar → Parser α} (ts : List Token) {m : Nat}
    (hp : Settles (nestingBound ts) 32 (p (grammar (nestingBound ts))) (p (grammar m))) :
    Settled ⟨ts, none⟩ (p (grammar (nestingBound ts))) (p (grammar m)) :=
  hp.settled (Nat.le_refl _)

theorem flagDecls_settled (ts : List Token) {m : Nat} (h : nestingBound ts ≤ m) :
    Settled ⟨ts, none⟩ (flagDecls (grammar (nestingBound ts))) (flagDecls (grammar m)) := by
  have := settlesGrammar h
  exact settled_nestingBound ts inferInstance

theorem fileItems_settled (ts : List Token) {m : Nat} (h : nestingBound ts ≤ m) :
    Settled ⟨ts, none⟩ (fileItems (grammar (nestingBound ts))) (fileItems (grammar m)) := by
  have := settlesGrammar h
  exact settled_nestingBound ts inferInstance

theorem parseAll_ne_exhausted {α : Type} {p : Grammar → Parser α} {ts : List Token}
    (h : p (grammar (nestingBound ts)) ⟨ts, none⟩ ≠ .error .exhausted) :
    parseAll p ts ≠ .error .exhausted := by
  unfold parseAll StateT.run
  rcases hrun : p (grammar (nestingBound ts)) ⟨ts, none⟩ with e | ⟨a, ⟨rest, leftover⟩⟩
  · intro he
    cases he
    exact h hrun
  · rcases leftover with _ | d <;> rcases rest with _ | ⟨t, rest⟩ <;> exact fun he => by cases he

/-- No block is refused for how deep it nests, and no loop runs out of rounds. -/
theorem parseFlags_ne_exhausted (ts : List Token) : parseFlags ts ≠ .error .exhausted :=
  parseAll_ne_exhausted (flagDecls_settled ts (Nat.le_refl _)).ends

/-- The same of the text of a file. -/
theorem parseFile_ne_exhausted (text : String) : parseFile text ≠ .error .exhausted := by
  unfold parseFile
  split
  · next ts _ => exact parseAll_ne_exhausted (fileItems_settled ts (Nat.le_refl _)).ends
  · exact fun h => by cases h

end NodeIdGen.Syntax
