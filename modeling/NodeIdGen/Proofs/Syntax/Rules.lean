import NodeIdGen.Proofs.Except
import NodeIdGen.Proofs.Syntax.Runs

/-!
# Runs of the rules for names, attributes, types and projections

Which name stands there is not known here, only that it is not reserved. That is enough: whatever
a rule looks for in front of a name is reserved, so the rule passes on to the name. All the rest is
punctuation and words that are known, and looking at it computes.
-/

namespace NodeIdGen.Syntax

open NodeIdGen.Syntax.Parser

variable {n w : String} {ts us : Rest}

/-! ## Names -/

theorem ne_of_not_isReserved (hn : isReserved n = false) (hw : isReserved w = true) : n ≠ w := by
  rintro rfl
  rw [hn] at hw
  cases hw

theorem atAnyWord_eq_false {ws : List String} (hn : isReserved n = false)
    (hws : ∀ w ∈ ws, isReserved w = true) : Rest.atAnyWord ws (.ident n :: ts) = false := by
  refine Bool.eq_false_iff.2 fun h => ?_
  exact ne_of_not_isReserved hn (hws n (List.contains_iff_mem.1 h)) rfl

theorem runs_word?_of_ne (h : n ≠ w) :
    Runs (word? w) (.ident n :: ts) (.ok false) (.ident n :: ts) := by
  intro l
  have hif : word? w ⟨.ident n :: ts, l⟩ = (if n = w then (do moveTo ts; return true) else
    (pure false : Parser Bool)) ⟨.ident n :: ts, l⟩ := rfl
  rw [hif, if_neg h]
  rfl

theorem runs_name (h : isReserved n = false) : Runs name (.ident n :: ts) (.ok n) ts := by
  intro l
  have hif : name ⟨.ident n :: ts, l⟩ = (if isReserved n then wanted (.name (some n)) else
    (do moveTo ts; return n : Parser String)) ⟨.ident n :: ts, l⟩ := rfl
  rw [hif, h]
  rfl

theorem runs_visibility (hn : isReserved n = false) :
    Runs visibility (.ident n :: ts) (.ok false) (.ident n :: ts) :=
  (runs_word?_of_ne (ne_of_not_isReserved hn (by decide))).bind (Runs.pure _)

/-! ## Attributes -/

/-- The attribute that is one name. -/
def attributeOf (n : String) : Attribute :=
  ⟨.ofName n, false⟩

/-- The attribute that is one name, in tokens. -/
def attributeTokens (n : String) : List Token :=
  [.punct '#' false, .group .bracket [.ident n]]

theorem runs_attributeContent (g : Grammar) (hn : isReserved n = false) :
    Runs (attributeContent g) [.ident n] (.ok (attributeOf n)) [] := by
  have segment : atPlainSegment [.ident n] = true := by
    simp [atPlainSegment, Rest.atName, hn]
  have single : Runs plainPath [.ident n] (.ok (.ofName n)) [] :=
    Runs.bind (a := false) (fun _ => rfl) ((Runs.test segment).bind fun _ => rfl)
  have path : Runs attributePath [.ident n] (.ok (.ofName n)) [] :=
    (runs_word?_of_ne (ne_of_not_isReserved hn (by decide))).bind single
  exact path.bind fun _ => rfl

theorem runs_attributes (g : Grammar) {names : List String}
    (hnames : ∀ n ∈ names, isReserved n = false) (hend : us.atSymbol "#" = false) :
    Runs (outerAttributes g) (names.flatMap attributeTokens ++ us) (.ok (names.map attributeOf))
      us := by
  rw [← Except.mapM_ok]
  refine Runs.whileIs (fun n _ => List.cons_ne_nil _ _) (fun n hn ts => ?_) (fun _ _ _ => rfl) hend
  exact Runs.bind (a := ()) (fun _ => rfl) ((runs_attributeContent g (hnames n hn)).group _)

/-! ## Types -/

/-- Nothing that stands here could go on with a type. -/
structure EndsType (ts : Rest) : Prop where
  noAngle : atAngle ts = false
  noPath : ts.atSymbol "::" = false
  noCall : ts.atSymbol "!" = false
  noPlus : ts.atSymbol "+" = false

theorem runs_segment (g : Grammar) (hn : isReserved n = false) (hts : EndsType ts) :
    Runs (segment g .inType) (.ident n :: ts) (.ok ⟨n, .absent⟩) ts := by
  have keyword : Rest.atAnyWord ["super", "self", "crate", "try"] (.ident n :: ts) = false :=
    atAnyWord_eq_false hn (by decide)
  have self : Rest.atWord "Self" (.ident n :: ts) = false :=
    decide_eq_false (ne_of_not_isReserved hn (by decide))
  refine (Runs.test keyword).bind ((Runs.test self).bind ((runs_name hn).bind ?_))
  refine Runs.look.bind ?_
  rw [hts.noAngle, hts.noPath]
  exact Runs.pure _

theorem runs_path (g : Grammar) (hn : isReserved n = false) (hts : EndsType ts) :
    Runs (path g .inType) (.ident n :: ts) (.ok (.ofName n)) ts := by
  have last : Runs (do
      let ts ← look
      if ts.atSymbol "::" && !ts.third.atGroup .parenthesis then
        symbol "::"
        return true
      else
        return false : Parser Bool) ts (.ok false) ts := by
    refine Runs.look.bind ?_
    rw [hts.noPath]
    exact Runs.pure _
  refine Runs.bind (fun _ => rfl) (Runs.bind ?_ (Runs.pure _))
  exact Runs.look.bind ((runs_segment g hn hts).bind (last.bind (Runs.pure _)))

theorem runs_pathType (g : Grammar) (hn : isReserved n = false) (hts : EndsType ts) :
    Runs (pathType g true false) (.ident n :: ts) (.ok (.path (.ofName n))) ts := by
  have qualified : Runs (qualifiedPath g .inType) (.ident n :: ts) (.ok (false, .ofName n)) ts :=
    Runs.bind (fun _ => rfl) ((runs_path g hn hts).bind (Runs.pure _))
  have invocation : Runs (invocation? false (.ofName n)) ts (.ok none) ts := by
    refine Runs.look.bind ?_
    rw [hts.noCall]
    exact Runs.pure _
  exact qualified.bind (invocation.bind ((Runs.test hts.noPlus).bind (Runs.pure _)))

theorem runs_ty (k : Nat) (hn : isReserved n = false) (hts : EndsType ts) :
    Runs ((grammar (k + 1)).ty true) (.ident n :: ts) (.ok (.path (.ofName n))) ts := by
  have binder : Runs (binder? (grammar k)) (.ident n :: ts) (.ok false) (.ident n :: ts) :=
    (runs_word?_of_ne (ne_of_not_isReserved hn (by decide))).bind (Runs.pure _)
  have function : Rest.atAnyWord ["fn", "unsafe", "extern"] (.ident n :: ts) = false :=
    atAnyWord_eq_false hn (by decide)
  have path : atTypePath (.ident n :: ts) = true := by simp [atTypePath, Rest.atName, hn]
  have unbound : Runs (unboundType (grammar k) true false) (.ident n :: ts)
      (.ok (.path (.ofName n))) ts := by
    refine Runs.look.bind ?_
    rw [if_neg (by simp [Rest.atGroup]), function, path]
    exact runs_pathType _ hn hts
  exact binder.bind unbound

/-! ## Projections -/

namespace Member

/-- The token that spells the part of a value. -/
def token : Member → Token
  | named n => .ident n
  | index n => .literal (.integer n "")

/-- The projection of the part from the receiver, in tokens. -/
def selfTokens (m : Member) : List Token :=
  [.ident "self", .punct '.' false, m.token]

/-- The projection of the part from the receiver. -/
def ofSelf (m : Member) : Expr :=
  .field (.path (.ofName "self")) m

/-- The part is named by its position or by a name that is not reserved. -/
def IsPlain : Member → Prop
  | named n => isReserved n = false
  | index _ => True

/-- The part, unless its position is larger than the grammar admits. -/
def checked : Member → Except Fault Member
  | named n => .ok (.named n)
  | index n =>
    if n < UInt32.size then .ok (.index n)
    else .error (.rule "number too large to fit in target type" false)

end Member

variable {m : Member} (g : Grammar)

theorem runs_member (h : m.IsPlain) : Runs member (m.token :: ts) m.checked ts := by
  intro l
  cases m with
  | named n =>
      have hif : member ⟨.ident n :: ts, l⟩ = (if isReserved n then
          broken "expected identifier or integer"
        else (do moveTo ts; return .named n : Parser Member)) ⟨.ident n :: ts, l⟩ := rfl
      rw [Member.token, hif, h]
      rfl
  | index n =>
      have hif : member ⟨.literal (.integer n "") :: ts, l⟩ = (if n < UInt32.size then
          (do moveTo ts; return .index n : Parser Member)
        else denied "number too large to fit in target type")
          ⟨.literal (.integer n "") :: ts, l⟩ := rfl
      rw [Member.token, hif, Member.checked]
      split <;> rfl

theorem runs_projection (e : Expr) (h : m.IsPlain) :
    Runs (projection g e) [m.token] (m.checked.map (.field e ·)) [] := by
  have await : Runs (word? "await") [m.token] (.ok false) [m.token] := by
    cases m with
    | named n => exact runs_word?_of_ne (ne_of_not_isReserved h (by decide))
    | index n => exact fun _ => rfl
  have member : Runs member [m.token] (m.checked.map id) [] := by
    simpa [Except.map_id] using runs_member h
  refine await.bind (member.bind_map fun c => ?_)
  cases c <;> exact fun _ => rfl

theorem runs_trailers (p : Path) (h : m.IsPlain) :
    Runs (trailers g (.path p)) [.punct '.' false, m.token]
      (m.checked.map (.field (.path p) ·)) [] := by
  have point : Runs (behindPoint g (.path p)) [m.token]
      (m.checked.map (.field (.path p) ·)) [] := by
    have := runs_projection g (.path p) h
    cases m <;> exact this
  have dot : Runs (symbol ".") [.punct '.' false, m.token] (.ok ()) [m.token] := fun _ => rfl
  exact Runs.look.bind (Runs.look.bind (dot.bind (point.bind_map fun _ _ => rfl)))

theorem runs_outerAttributes (h : ts.atSymbol "#" = false) :
    Runs (outerAttributes g) ts (.ok []) ts :=
  Runs.whileIs_of_not h

theorem runs_innerAttributes (h : (ts.atSymbol "#" && ts.second.atSymbol "!") = false) :
    Runs (innerAttributes g) ts (.ok []) ts :=
  Runs.whileIs_of_not h

/-- The receiver is an atom, and the projection trails it. -/
theorem runs_early (k : Nat) (h : m.IsPlain) :
    Runs (grammar (k + 3)).early m.selfTokens (m.checked.map Member.ofSelf) [] := by
  have atom : Runs (atom (grammar (k + 1)) true) m.selfTokens
      (.ok (.path (.ofName "self"))) [.punct '.' false, m.token] := fun _ => rfl
  have unary : Runs ((grammar (k + 2)).unary true) m.selfTokens
      (m.checked.map Member.ofSelf) [] := by
    refine (runs_outerAttributes _ rfl).bind (Runs.look.bind (Runs.bind atom ?_))
    exact (runs_trailers _ _ h).bind_map fun _ _ => rfl
  refine (runs_outerAttributes _ rfl).discard.bind (Runs.look.bind ?_)
  exact unary.bind_map fun _ _ => rfl

/-- A block whose only statement is the projection. -/
theorem runs_stmts (k : Nat) (h : m.IsPlain) :
    Runs (grammar (k + 4)).stmts m.selfTokens
      (m.checked.map fun c => [.expr c.ofSelf false]) [] := by
  have start : Runs (ahead? do
      discard plainPath
      return invocationStart (← look) : Parser (Option InvocationStart))
      m.selfTokens (.ok (some .none)) m.selfTokens := fun _ => rfl
  have stmt : Runs (stmt (grammar (k + 3))) m.selfTokens
      (m.checked.map fun c => .expr c.ofSelf false) [] := by
    refine Runs.get fun _ => (runs_outerAttributes _ rfl).discard.bind ?_
    refine start.bind (Runs.look.bind ?_)
    exact (runs_early _ h).bind_map fun _ _ => rfl
  have only : Runs (stmtThenGap (grammar (k + 3))) m.selfTokens
      (m.checked.map fun c => .expr c.ofSelf false) [] :=
    stmt.bind_map fun _ _ => rfl
  refine (Runs.whileIs_of_not rfl).discard.bind ?_
  exact (Runs.test rfl).bind (Runs.look.bind (only.bind_map fun _ _ => rfl))

end NodeIdGen.Syntax
