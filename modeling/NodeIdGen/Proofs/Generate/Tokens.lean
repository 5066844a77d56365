import NodeIdGen.Proofs.Generate.Body
import NodeIdGen.Proofs.Syntax.Rules
import NodeIdGen.Proofs.Syntax.Scanning

/-!
# The tokens of a document

The lexer turns a document into the tokens of its accessors. The header is made of two comments:
the time stamp has no line break, so it cannot end the line it stands in, whatever its text. Of an
accessor only the two names are not known, and each is read back as one token: the name of the
record as a word, the name of the field as a word or a whole number.
-/

namespace NodeIdGen.Generate

open NodeIdGen.Syntax NodeIdGen.Schema

/-- The names of an accessor may be written out. -/
structure Accessor.Fits (a : Accessor) : Prop where
  record : isIdentifier a.record = true
  field : isFieldName a.field = true

/-- The part of a record that a field's name stands for. -/
def memberOf (field : String) : Member :=
  if isPosition field then .index (Nat.ofDigitChars 10 field.toList 0) else .named field

theorem memberOf_toString (n : Nat) : memberOf (toString n) = .index n := by
  rw [memberOf, if_pos (isPosition_toString n), ofDigitChars_toString]

/-- The method of an accessor, in tokens. -/
def methodTokens (m : Member) : List Token :=
  [.ident "fn", .ident accessorMethod, .group .parenthesis [.punct '&' false, .ident "self"],
   .punct '-' true, .punct '>' false, .ident nodeIdType, .group .brace m.selfTokens]

/-- The implementation for a record, in tokens. -/
def implTokens (record : String) (m : Member) : List Token :=
  [.ident "impl", .ident accessorTrait, .ident "for", .ident record,
   .group .brace (methodTokens m)]

def Accessor.tokens (a : Accessor) : List Token :=
  implTokens a.record (memberOf a.field)

/-! ## The text of an accessor around its names -/

/-- The text in front of the record's name. -/
def beforeRecord : List Char :=
  '\n' :: ("impl ".toList ++ accessorTrait.toList ++ " for ".toList)

/-- The text between the two names. -/
def beforeField : List Char :=
  " \x7b".toList ++ '\n' :: ("    fn ".toList ++ accessorMethod.toList ++ "(&self) -> ".toList ++
    nodeIdType.toList ++ " \x7b".toList ++ '\n' :: "        self.".toList)

/-- The text behind the field's name. -/
def afterField : List Char :=
  '\n' :: ("    \x7d".toList ++ '\n' :: ("\x7d".toList ++ ['\n']))

theorem chars_eq (a : Accessor) : '\n' :: a.chars =
    beforeRecord ++ (a.record.toList ++ (beforeField ++ (a.field.toList ++ afterField))) := by
  simp only [Accessor.chars, Accessor.lines, beforeRecord, beforeField, afterField,
    List.flatMap_cons, List.flatMap_nil, List.append_assoc, List.cons_append, List.nil_append]

variable {done : List Token} {rest : List Char}

theorem scans_beforeRecord :
    Scans ⟨done, []⟩ (beforeRecord ++ rest)
      ⟨.ident "for" :: .ident accessorTrait :: .ident "impl" :: done, []⟩ rest :=
  Scans.fixed (k := 7) (by decide) fun _ => rfl

/-- Two groups are open behind the point, the one of the implementation and the one of the
method. -/
theorem scans_beforeField (f : Frames) (c : Char) :
    Scans f (beforeField ++ c :: rest)
      ⟨[.punct '.' (atSymbolChar (c :: rest)), .ident "self"],
        (.brace, [.ident nodeIdType, .punct '>' false, .punct '-' true,
          .group .parenthesis [.punct '&' false, .ident "self"], .ident accessorMethod,
          .ident "fn"]) :: (.brace, f.done) :: f.outer⟩ (c :: rest) :=
  Scans.fixed (k := 32) (by decide) fun _ => rfl

theorem scans_afterField (inner outer before : List Token) :
    Scans ⟨inner, [(.brace, outer), (.brace, before)]⟩ (afterField ++ rest)
      ⟨.group .brace (.group .brace inner.reverse :: outer).reverse :: before, []⟩ rest :=
  Scans.fixed (k := 9) (by decide) fun _ => rfl

/-! ## The names of an accessor -/

theorem scans_field {field : String} (f : Frames) (h : isFieldName field = true) :
    Scans f (field.toList ++ '\n' :: rest) (f.push (memberOf field).token) ('\n' :: rest) := by
  unfold memberOf
  split
  · next hp => exact Scans.position hp
  · next hp =>
    rw [isFieldName, Bool.eq_false_iff.2 hp, Bool.or_false] at h
    exact Scans.word (isIdentifier_iff.1 h).1 rfl

/-- The name of a field starts with no punctuation, so the point in front of it stands alone. -/
theorem field_front {field : String} (h : isFieldName field = true) :
    ∃ c cs, field.toList = c :: cs ∧ ∀ rest, atSymbolChar (c :: rest) = false := by
  rw [isFieldName, Bool.or_eq_true] at h
  rcases h with h | h
  · obtain ⟨c, cs, hcs, hc⟩ := exists_of_ident? (isIdentifier_iff.1 h).1
    exact ⟨c, cs, hcs, fun rest => atSymbolChar_eq_false hc⟩
  · obtain ⟨c, cs, hcs, hc⟩ := exists_of_isPosition h
    exact ⟨c, cs, hcs, fun rest => atSymbolChar_of_isDigit hc⟩

theorem scans_accessor {a : Accessor} (h : a.Fits) :
    Scans ⟨done, []⟩ ('\n' :: a.chars ++ rest) ⟨a.tokens.reverse ++ done, []⟩ rest := by
  obtain ⟨c, cs, hcs, hc⟩ := field_front h.field
  have method := @scans_beforeField (cs ++ (afterField ++ rest))
    ⟨.ident a.record :: .ident "for" :: .ident accessorTrait :: .ident "impl" :: done, []⟩ c
  rw [hc, ← List.cons_append, ← hcs] at method
  rw [chars_eq]
  simp only [List.append_assoc]
  refine scans_beforeRecord.trans ((Scans.word (isIdentifier_iff.1 h.record).1 rfl).trans ?_)
  exact method.trans ((scans_field _ h.field).trans (scans_afterField _ _ _))

theorem scans_body {as : List Accessor} (h : ∀ a ∈ as, a.Fits) :
    Scans ⟨done, []⟩ (bodyOf as) ⟨(as.flatMap Accessor.tokens).reverse ++ done, []⟩ [] := by
  induction as generalizing done with
  | nil => exact Scans.refl
  | cons a as ih =>
      rw [List.forall_mem_cons] at h
      rw [List.flatMap_cons, List.reverse_append, List.append_assoc]
      exact (scans_accessor h.1).trans (ih h.2)

/-! ## The header -/

theorem scans_header (f : Frames) (ts : String) : Scans f (headerChars ts ++ rest) f rest := by
  have newline : ∀ cs, Scans f ('\n' :: cs) f cs := fun cs => Scans.step rfl (Nat.le_refl _)
  have first : Scans f (generatedMarker.toList ++ '\n' :: (producedLine ts ++ '\n' :: rest)) f
      ('\n' :: (producedLine ts ++ '\n' :: rest)) :=
    @Scans.comment f _ "AUTOMATICALLY GENERATED - DO NOT EDIT".toList (by decide)
  have second : Scans f (producedLine ts ++ '\n' :: rest) f ('\n' :: rest) := by
    obtain ⟨line, hline⟩ : ∃ line, producedLine ts = '/' :: '/' :: ' ' :: line := ⟨_, rfl⟩
    have noBreak := (unbroken_producedLine ts).newline_not_mem
    rw [hline] at noBreak ⊢
    simp only [List.mem_cons, not_or] at noBreak
    exact Scans.comment noBreak.2.2.2
  unfold headerChars
  simp only [List.append_assoc, List.cons_append, List.nil_append]
  exact first.trans ((newline _).trans (second.trans (newline _)))

/-- The tokens of a document are those of its accessors, whatever the time stamp. -/
theorem lex_document (ts : String) {as : List Accessor} (h : ∀ a ∈ as, a.Fits) :
    lex (document ts as).toList = some (as.flatMap Accessor.tokens) := by
  have scans := (scans_header .start ts).trans (scans_body h)
  unfold document
  rw [String.toList_ofList, scans.lex_eq rfl]
  simp [Frames.finish?]

end NodeIdGen.Generate
