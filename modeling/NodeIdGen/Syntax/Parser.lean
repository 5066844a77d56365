import NodeIdGen.Syntax.Ast
import NodeIdGen.Syntax.Fault
import NodeIdGen.Syntax.Identifier

/-!
# Parsers over tokens

A parser reads the tokens of one group. Looking ahead is a function on the tokens that are left, so
it changes nothing. A group is read by a parser of its own; if it leaves something over, that is
noted in the state and reported only when nothing else has failed.

What is called `at...` says whether something stands in front; `symbol`, `word`, `name` and so on read
it, and with a `?` behind their name they read it if it stands there.
-/

namespace NodeIdGen.Syntax

/-! ## Looking ahead -/

/-- The tokens that are left in the group. -/
abbrev Rest := List Token

namespace Rest

/-- The tokens behind the punctuation `s`, if it stands in front without gaps. -/
def symbol? : List Char → Rest → Option Rest
  | [], ts => some ts
  | [c], .punct d _ :: ts => if c = d then some ts else none
  | c :: cs, .punct d true :: ts => if c = d then symbol? cs ts else none
  | _, _ => none

/-- The punctuation `s` stands in front. -/
def atSymbol (s : String) (ts : Rest) : Bool :=
  (symbol? s.toList ts).isSome

def atAnySymbol (ss : List String) (ts : Rest) : Bool :=
  ss.any (atSymbol · ts)

def atWord (w : String) : Rest → Bool
  | .ident n :: _ => n = w
  | _ => false

def atAnyWord (ws : List String) : Rest → Bool
  | .ident n :: _ => ws.contains n
  | _ => false

/-- A name that is not reserved stands in front. -/
def atName : Rest → Bool
  | .ident n :: _ => !isReserved n
  | _ => false

/-- Any word stands in front. -/
def atIdent : Rest → Bool
  | .ident _ :: _ => true
  | _ => false

def atLifetime : Rest → Bool
  | .lifetime _ :: _ => true
  | _ => false

def atGroup (d : Delimiter) : Rest → Bool
  | .group e _ :: _ => d = e
  | _ => false

def atAnyGroup : Rest → Bool
  | .group _ _ :: _ => true
  | _ => false

/-- The rest behind a literal value: a literal, a truth value, or a number behind a minus sign. -/
def literal? : Rest → Option Rest
  | .literal _ :: ts => some ts
  | .ident n :: ts => if n = "true" ∨ n = "false" then some ts else none
  | .punct '-' _ :: .literal l :: ts => if l.isNumber then some ts else none
  | _ => none

/-- A literal value stands in front. -/
def atLiteral (ts : Rest) : Bool :=
  (literal? ts).isSome

def atString : Rest → Bool
  | .literal .string :: _ => true
  | _ => false

def second (ts : Rest) : Rest := ts.drop 1

def third (ts : Rest) : Rest := ts.drop 2

end Rest

/-! ## The state and its moves -/

/-- What is left of the group, and the first group so far that was not read to its end. -/
structure State where
  rest : Rest
  leftover : Option Delimiter := none

/-- A parser over the tokens of one group. -/
abbrev Parser := StateT State (Except Fault)

namespace Parser

variable {α β : Type}

/-- The tokens that are left. -/
def look : Parser Rest :=
  State.rest <$> get

/-- Whether the tokens that are left satisfy a test. -/
def test (f : Rest → Bool) : Parser Bool :=
  f <$> look

/-- Goes on behind the given tokens. -/
def moveTo (ts : Rest) : Parser Unit :=
  modify fun s => { s with rest := ts }

/-- Stops because something is wanted that does not stand here. -/
def wanted (w : Wanted) : Parser α := do
  throw (.unmet w (← look).isEmpty)

/-- Stops because of a rule about what stands here. -/
def broken (text : String) : Parser α := do
  throw (.rule text (← look).isEmpty)

/-- Stops because of a rule about what was read already. -/
def denied (text : String) : Parser α :=
  throw (.rule text false)

/-- The parser's result from here, without moving. -/
def ahead? (p : Parser α) : Parser (Option α) := do
  match p.run (← get) with
  | .ok (a, _) => return some a
  | .error _ => return none

/-- Moves only if the parser succeeds. -/
def attempt (p : Parser α) : Parser (Option α) := do
  match p.run (← get) with
  | .ok (a, s) =>
    set s
    return some a
  | .error _ => return none

/-! ## Single tokens -/

def symbol (s : String) : Parser Unit := do
  match Rest.symbol? s.toList (← look) with
  | some ts => moveTo ts
  | none => wanted (.symbol s)

def symbol? (s : String) : Parser Bool := do
  match Rest.symbol? s.toList (← look) with
  | some ts =>
    moveTo ts
    return true
  | none => return false

def word (w : String) : Parser Unit := do
  match ← look with
  | .ident n :: ts => if n = w then moveTo ts else wanted (.word w)
  | _ => wanted (.word w)

def word? (w : String) : Parser Bool := do
  match ← look with
  | .ident n :: ts =>
    if n = w then
      moveTo ts
      return true
    else
      return false
  | _ => return false

/-- Any word is read, reserved or not. -/
def anyWord : Parser String := do
  match ← look with
  | .ident n :: ts =>
    moveTo ts
    return n
  | _ => wanted (.name none)

def name : Parser String := do
  match ← look with
  | .ident n :: ts =>
    if isReserved n then
      wanted (.name (some n))
    else
      moveTo ts
      return n
  | _ => wanted (.name none)

def name? : Parser (Option String) := do
  if ← test Rest.atName then some <$> name else return none

def lifetime : Parser String := do
  match ← look with
  | .lifetime n :: ts =>
    moveTo ts
    return n
  | _ => wanted .lifetime

def lifetime? : Parser (Option String) := do
  if ← test Rest.atLifetime then some <$> lifetime else return none

def literal : Parser Unit := do
  match Rest.literal? (← look) with
  | some ts => moveTo ts
  | none => wanted .literal

/-! ## Groups -/

/-- The state behind a group whose content was read up to `s`. -/
def leave (d : Delimiter) (after : Rest) (s : State) : State :=
  ⟨after, s.leftover <|> (if s.rest.isEmpty then none else some d)⟩

/-- A group is read, and its content by `p`. -/
def group (d : Delimiter) (p : Parser α) : Parser α := do
  match ← get with
  | ⟨.group e content :: after, leftover⟩ =>
    if d = e then
      match p.run ⟨content, leftover⟩ with
      | .ok (a, s) =>
        set (leave d after s)
        return a
      | .error f => throw f
    else wanted (.group d)
  | _ => wanted (.group d)

/-- A group with any brackets is read, and its content kept as it is. -/
def anyGroup : Parser (Delimiter × List Token) := do
  match ← look with
  | .group d content :: ts =>
    moveTo ts
    return (d, content)
  | _ => wanted .anyGroup

/-- A group is read whatever is in it. -/
def skipGroup (d : Delimiter) : Parser Unit :=
  group d (moveTo [])

/-! ## Repetition

There is one loop, `chained`; every other repetition is built on it. A loop that reads at least one
token in each round ends after as many rounds as there are tokens.
-/

/-- At most `n` rounds of `p`; after each, `again` decides whether another one follows. -/
def rounds (p : Parser α) (again : Parser Bool) : Nat → Parser (List α)
  | 0 => throw .exhausted
  | n + 1 => do
    let a ← p
    if ← again then
      return a :: (← rounds p again n)
    else
      return [a]

/-- `p` once, and again as long as `again` says so. -/
def chained (p : Parser α) (again : Parser Bool) : Parser (List α) := do
  rounds p again ((← look).length + 1)

/-- `p` again and again, as long as `more` holds of what is left. -/
def whileIs (more : Rest → Bool) (p : Parser α) : Parser (List α) := do
  if ← test more then
    chained p (test more)
  else
    return []

/-- `p` again and again to the end of the group. -/
def toEnd (p : Parser α) : Parser (List α) :=
  whileIs (!·.isEmpty) p

/-- Parts with a separator between them, and perhaps one behind the last, until `stop` holds. -/
def separated (stop : Rest → Bool) (sep : String) (p : Parser α) : Parser (List α) := do
  if ← test stop then
    return []
  else
    chained p do
      if ← test stop then
        return false
      else
        symbol sep
        return !(← test stop)

/-- Parts with commas between them, to the end of the group. -/
def commaSeparated (p : Parser α) : Parser (List α) :=
  separated (·.isEmpty) "," p

/-- Parts joined by pluses, until no plus follows or `stop` holds in front of a part. -/
def joined (stop : Rest → Bool) (p : Parser α) : Parser (List α) := do
  if ← test stop then
    return []
  else
    chained p do
      if ← symbol? "+" then
        return !(← test stop)
      else
        return false

end Parser

end NodeIdGen.Syntax
