import NodeIdGen.Generate.Log
import NodeIdGen.Syntax.Identifier

/-!
# The filter of a log

A setting is a list of directives with commas between them. A directive is a level, a target, or
both as `target=level`; without a level everything is let through, and a target stands for all those
that start with it. Of the directives about an event the one with the longest target decides, of two
with one target the later. Events that no directive is about are not shown.

Directives in square brackets, which are about spans and the names and values of their fields, are
left out: a setting is read as if they were not there.
-/

namespace NodeIdGen.Generate

/-- Events whose target starts with the given one, or all events, are let through up to a rank. -/
structure Directive where
  target : Option String
  rank : Nat
  deriving DecidableEq, Repr

namespace Directive

def IsAbout (d : Directive) (e : Event) : Prop :=
  ∀ t ∈ d.target, t.toList <+: e.target.toList

instance (d : Directive) (e : Event) : Decidable (d.IsAbout e) :=
  inferInstanceAs (Decidable (∀ t ∈ d.target, _))

/-- By this directives are ordered: a longer target counts more, and no target the least. -/
def weight (d : Directive) : Nat :=
  d.target.elim 0 fun t => t.length + 1

/-- The better of a directive and the best of those before it. -/
def preferred (e : Event) (best : Option Directive) (d : Directive) : Option Directive :=
  if d.IsAbout e ∧ ∀ b ∈ best, b.weight ≤ d.weight then some d else best

/-- The rank that a word stands for: a number, or the name of a level in letters of either case. -/
def rank? (word : String) : Option Nat :=
  if word.toList.all Char.isDigit then
    let n := Nat.ofDigitChars 10 word.toList 0
    if n ≤ Level.trace.rank then some n else none
  else if word.toUpper = "OFF" then
    some 0
  else
    (Level.all.find? (·.label = word.toUpper)).map Level.rank

/-- A directive starts like a word or with one of two marks. -/
def startsDirective (c : Char) : Bool :=
  Syntax.isIdentContinue c || c == '-' || c == ':'

def parse? (text : List Char) : Option Directive :=
  if text.head?.any startsDirective then
    let word := String.ofList (text.takeWhile (· ≠ '='))
    match text.dropWhile (· ≠ '=') with
    | [] =>
      match rank? word with
      | some n => some ⟨none, n⟩
      | none => some ⟨some word, Level.trace.rank⟩
    | [_] => some ⟨some word, Level.trace.rank⟩
    | _ :: level => (rank? (String.ofList level)).map (⟨some word, ·⟩)
  else
    none

end Directive

structure Filter where
  directives : List Directive
  deriving DecidableEq, Repr

namespace Filter

/-- The directive that decides about an event. -/
def decisive? (f : Filter) (e : Event) : Option Directive :=
  f.directives.foldl (Directive.preferred e) none

def shows (f : Filter) (e : Event) : Bool :=
  (f.decisive? e).any (e.level.rank ≤ ·.rank)

/-- The filter without a setting of its own: warnings, or decisions too if a run is to tell them. -/
def standard (verbose : Bool) : Filter :=
  ⟨[⟨none, if verbose then Level.debug.rank else Level.warn.rank⟩]⟩

/-- The filter that a setting asks for, if all its directives can be read. -/
def ofSetting? (setting : String) : Option Filter :=
  let texts := (setting.toList.splitOn ',').filter fun text => text ≠ [] ∧ '[' ∉ text
  (texts.mapM Directive.parse?).map Filter.mk

/-- The lines that are shown. -/
def lines (f : Filter) (events : List Event) : List String :=
  (events.filter f.shows).map Event.line

end Filter

end NodeIdGen.Generate
