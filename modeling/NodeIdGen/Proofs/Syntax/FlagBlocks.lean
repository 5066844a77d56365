import NodeIdGen.Proofs.Syntax.DepthItems
import NodeIdGen.Proofs.Syntax.FlagGrammar

/-!
# The parser of flag blocks

For any tokens at all, the parser comes to an end by itself: neither its two loops nor the types and
values inside run out of the bounds that are put on them, because each entry and each constant that
is read is at least one token. And it ends with entries exactly if the tokens are written by the
grammar of `FlagEntry` from the first to the last, with these entries.

What attributes, visibilities, types and values are is left to their own parsers. These run over a
grammar of some depth, but which one makes no difference: all that are deep enough for the tokens
describe the same blocks.
-/

namespace NodeIdGen.Syntax

open NodeIdGen.Syntax.Parser

/-- The depth that is left to the parser and any greater one describe the same blocks. -/
theorem isFlagBlock_iff {content : List Token} {depth : Nat} (h : nestingBound content ≤ depth)
    {entries : List FlagDecl} :
    IsFlagBlock content entries ↔ Parts (FlagEntry (grammar depth)) content entries := by
  have entriesTaken : ∀ g [ForwardGrammar g],
      Takes (flagDecls g) content entries [] ↔ Parts (FlagEntry g) content entries := fun g _ =>
    (takes_toEnd (fun _ _ _ => takes_flagDecl) (fun _ _ _ => FlagEntry.length_lt)).trans
      (and_iff_right rfl)
  have same : flagDecls (grammar depth) ⟨content, none⟩ =
      flagDecls (grammar (nestingBound content)) ⟨content, none⟩ :=
    (flagDecls_settled content h).same
  rw [IsFlagBlock, ← entriesTaken, ← entriesTaken, Takes, Takes, same]

/-- Each round of the two loops reads a token or stops, no bound is met on any tokens, and what is
accepted are the blocks that consist of entries, however deep types and values may nest. -/
theorem flag_blocks_parsed (content : List Token) :
    (∀ (g : Grammar) [ForwardGrammar g] (s t : State) (e : FlagDecl),
        flagDecl g s = .ok (e, t) → t.rest.length < s.rest.length) ∧
      (∀ (g : Grammar) [ForwardGrammar g] (s t : State) (flag : Option String),
        flagConstant g s = .ok (flag, t) → t.rest.length < s.rest.length) ∧
      parseFlags content ≠ .error .exhausted ∧
      (∀ entries, parseFlags content = .ok entries ↔ IsFlagBlock content entries) ∧
      ∀ entries depth, nestingBound content ≤ depth →
        (IsFlagBlock content entries ↔ Parts (FlagEntry (grammar depth)) content entries) := by
  refine ⟨?_, ?_, parseFlags_ne_exhausted content, fun _ => parseFlags_eq_ok,
    fun _ _ h => isFlagBlock_iff h⟩
  · intro g _ s t e h
    exact Consumes.shorter h
  · intro g _ s t flag h
    exact Consumes.shorter h

/-- A constant with a name and one without. -/
def constantTokens : List Token :=
  [.ident "const", .ident "A", .punct '=' false, .literal (.integer 1 ""), .punct ';' false,
    .ident "const", .ident "_", .punct '=' false, .punct '!' false, .literal (.integer 0 ""),
    .punct ';' false]

/-- A block with one entry. -/
def blockTokens : List Token :=
  [.ident "pub", .ident "struct", .ident "F", .punct ':' false, .ident "u8",
    .group .brace constantTokens]

theorem blockTokens_parsed :
    Parts (FlagEntry (grammar 1000)) blockTokens [⟨[], "F", ["A"]⟩] ∧
      ∃ t, flagConstant (grammar 8) ⟨constantTokens, none⟩ = .ok (some "A", t) ∧
        t.rest.length < constantTokens.length := by
  obtain ⟨-, hconstant, -, hparsed, hdepth⟩ := flag_blocks_parsed blockTokens
  have parsed : parseFlags blockTokens = .ok [⟨[], "F", ["A"]⟩] := by
    rfl
  have constant : flagConstant (grammar 8) ⟨constantTokens, none⟩ =
      .ok (some "A", ⟨constantTokens.drop 5, none⟩) := by
    rfl
  have deep : nestingBound blockTokens ≤ 1000 := by
    decide
  exact ⟨(hdepth _ _ deep).1 ((hparsed _).1 parsed), _, constant, hconstant _ _ _ _ constant⟩

end NodeIdGen.Syntax
