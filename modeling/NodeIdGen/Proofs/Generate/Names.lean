import NodeIdGen.Proofs.Generate.Tokens
import NodeIdGen.Proofs.Syntax.Identifiers

/-!
# Names in a document

Names are written into a document as they are, so what keeps a document in order is the check of
the names alone. It admits the spellings of names and nothing else: no admitted text has a
character that means something outside of words, and wherever one stands it is read back as that
name, in the group that it was written in.
-/

namespace NodeIdGen.Generate

open NodeIdGen.Syntax NodeIdGen.Schema

theorem memberOf_of_isIdentifier {n : String} (h : isIdentifier n = true) :
    memberOf n = .named n := by
  rw [memberOf, isPosition_of_isIdentifier h]
  rfl

/-- The check of names admits a bare word that is no reserved one, or `r#` and a word that may stand
behind it. Such a text has no blank, no line break, no byte-order mark, no quote, no bracket and no
punctuation but the `#` of its mark; the lexer reads it in one step, whatever stopping text follows
and whatever groups are open; and a document whose records and fields have such names has the tokens
of its accessors, with these names in their places. -/
theorem admitted_names :
    (∀ s, isIdentifier s = true ↔ SpellsName s) ∧
    (∀ s, isIdentifier s = true → ∀ before c after, s.toList = before ++ c :: after →
      isIdentContinue c = true ∧ isMark c = false ∨ before = ['r'] ∧ c = '#') ∧
    (∀ s, isIdentifier s = true → ∀ (f : Frames) (tail : List Char) (c : Char) (rest : List Char),
      stops tail = true → s.toList ++ tail = c :: rest →
      step? f c rest = some (f.push (.ident s), tail)) ∧
    ∀ ts as, (∀ a ∈ as, isIdentifier a.record = true ∧ isIdentifier a.field = true) →
      lex (document ts as).toList =
        some (as.flatMap fun a => implTokens a.record (.named a.field)) := by
  refine ⟨fun s => isIdentifier_iff_spellsName, ?_, ?_, ?_⟩
  · intro s h before c after hs
    refine ((isIdentifier_iff_spellsName.1 h).chars hs).imp_left fun hc => ?_
    exact ⟨hc, isMark_eq_false hc⟩
  · intro s h f tail c rest ht hs
    exact step?_of_isIdentifier h ht f hs
  · intro ts as h
    have fits : ∀ a ∈ as, a.Fits := fun a ha =>
      ⟨(h a ha).1, by simp [isFieldName, (h a ha).2]⟩
    have tokens : as.flatMap Accessor.tokens =
        as.flatMap fun a => implTokens a.record (.named a.field) := by
      refine List.flatMap_congr fun a ha => ?_
      rw [Accessor.tokens, memberOf_of_isIdentifier (h a ha).2]
    rw [lex_document ts fits, tokens]

theorem admitted_names_umlaut :
    isIdentifier "größe" = true ∧ isIdentifier "r#type" = true ∧ isIdentifier "r#self" = false ∧
      (∀ after, "größe".toList ≠ ['g'] ++ ' ' :: after) ∧
      step? .start 'r' "#type // of the node".toList =
        some (Frames.start.push (.ident "r#type"), " // of the node".toList) ∧
      lex (document "now" [⟨"größe", "r#type"⟩]).toList =
        some (implTokens "größe" (.named "r#type")) := by
  obtain ⟨spelled, chars, step, tokens⟩ := admitted_names
  have letters : IsBare "größe".toList := by
    refine ⟨'g', ['r', 'ö', 'ß', 'e'], rfl, rfl, List.all_eq_true.1 ?_⟩
    decide +kernel
  have size : isIdentifier "größe" = true := (spelled _).2 (.bare letters (by decide))
  have type : isIdentifier "r#type" = true :=
    (spelled _).2 (@SpellsName.raw "type" ⟨'t', ['y', 'p', 'e'], rfl, rfl, List.all_eq_true.1 rfl⟩
      (by decide))
  have self : isIdentifier "r#self" = false := by decide +kernel
  refine ⟨size, type, self, fun after hs => ?_, ?_, ?_⟩
  · have := chars _ size ['g'] ' ' after hs
    exact absurd this (by decide)
  · exact step _ type .start " // of the node".toList 'r' _ rfl rfl
  · rw [tokens "now" [⟨"größe", "r#type"⟩] (List.forall_mem_singleton.2 ⟨size, type⟩)]
    rfl

end NodeIdGen.Generate
