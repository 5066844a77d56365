import NodeIdGen.Proofs.Generate.Loop
import NodeIdGen.Proofs.Text.Lines

/-!
# What a document is without its time stamp

The time stamp is written without line breaks, so it stays in its line and `body?` drops all of it:
what is left depends on the accessors alone. It also determines them. A line ends at the first line
break, and the names of an accessor stand in two of its lines between texts that are fixed.
-/

namespace NodeIdGen.Generate

open NodeIdGen.Text

/-! ## The line of the time stamp -/

theorem lineChar_ne (c : Char) : lineChar c ≠ '\n' ∧ lineChar c ≠ '\r' := by
  by_cases h : c = '\r' ∨ c = '\n'
  · rw [lineChar, if_pos h]
    decide
  · rw [lineChar, if_neg h]
    exact ⟨fun hc => h (.inr hc), fun hc => h (.inl hc)⟩

theorem unbroken_producedLine (ts : String) : Unbroken (producedLine ts) := by
  have stamp : Unbroken (ts.toList.map lineChar) := by
    intro d hd
    obtain ⟨c, -, rfl⟩ := List.mem_map.1 hd
    exact lineChar_ne c
  simp only [producedLine, unbroken_append]
  exact ⟨⟨⟨by decide, stamp⟩, by decide⟩, by decide⟩

theorem behind?_append (start rest : List Char) : behind? start (start ++ rest) = some rest := by
  unfold behind?
  rw [if_pos (List.isPrefixOf_iff_prefix.2 (List.prefix_append start rest)), List.drop_left]

theorem behind?_eq_some_iff {start text rest : List Char} :
    behind? start text = some rest ↔ text = start ++ rest := by
  constructor
  · intro h
    unfold behind? at h
    split at h
    · next hstart =>
      obtain ⟨after, rfl⟩ := List.isPrefixOf_iff_prefix.1 hstart
      rw [List.drop_left] at h
      rw [Option.some.inj h]
    · cases h
  · rintro rfl
    exact behind?_append start rest

/-- Only the first line and the start of the second are asked for; what stands in the second behind
its start makes no difference. -/
theorem bodyChars?_eq_some_iff {doc body : List Char} :
    bodyChars? doc = some body ↔ ∃ rest,
      doc = generatedMarker.toList ++ '\n' :: (producedMark.toList ++ rest) ∧
      body = generatedMarker.toList ++ '\n' :: (rest.dropWhile (· ≠ '\n')).drop 1 := by
  have marker (cs : List Char) : generatedMarker.toList ++ '\n' :: cs =
      (generatedMarker.toList ++ ['\n']) ++ cs := by
    simp
  have pastMark (rest : List Char) : (producedMark.toList ++ rest).dropWhile (· ≠ '\n') =
      rest.dropWhile (· ≠ '\n') :=
    List.dropWhile_append_of_pos (List.forall_iff_forall_mem.1 (by decide))
  unfold bodyChars?
  simp only [Option.bind_eq_bind, Option.bind_eq_some_iff, behind?_eq_some_iff]
  constructor
  · rintro ⟨second, rfl, h⟩
    split at h
    · next hmark =>
      obtain ⟨rest, rfl⟩ := List.isPrefixOf_iff_prefix.1 hmark
      rw [pastMark] at h
      exact ⟨rest, (marker _).symm, (Option.some.inj h).symm⟩
    · cases h
  · rintro ⟨rest, rfl, rfl⟩
    refine ⟨_, marker _, ?_⟩
    rw [if_pos (List.isPrefixOf_iff_prefix.2 (List.prefix_append _ _)), pastMark]

theorem bodyChars?_header (ts : String) (b : List Char) :
    bodyChars? (headerChars ts ++ b) = some (generatedMarker.toList ++ '\n' :: b) := by
  have line : '\n' ∉ ts.toList.map lineChar ++ (" by ".toList ++ producer.toList) := by
    have := (unbroken_producedLine ts).newline_not_mem
    simp only [producedLine, List.append_assoc] at this
    exact fun h => this (List.mem_append_right _ h)
  refine bodyChars?_eq_some_iff.2
    ⟨ts.toList.map lineChar ++ (" by ".toList ++ producer.toList) ++ '\n' :: b, ?_, ?_⟩
  · simp only [headerChars, producedLine, List.append_assoc, List.cons_append, List.nil_append]
  · rw [dropWhile_line line]
    rfl

/-- Without the line of its time stamp, a document is its marker and its accessors. -/
theorem body?_document (ts : String) (as : List Accessor) :
    body? (document ts as) =
      some (String.ofList (generatedMarker.toList ++ '\n' :: bodyOf as)) := by
  rw [body?, document, String.toList_ofList, bodyChars?_header]
  rfl

/-! ## The lines of the accessors -/

/-- Each name of the accessor stands in one line. -/
structure Accessor.OneLine (a : Accessor) : Prop where
  record : Unbroken a.record.toList
  field : Unbroken a.field.toList

/-- The lines of an accessor, with the empty line in front of them. -/
def Accessor.block (a : Accessor) : List (List Char) :=
  [] :: a.lines

theorem unbroken_block {a : Accessor} (h : a.OneLine) : ∀ l ∈ a.block, Unbroken l := by
  simp only [Accessor.block, Accessor.lines, List.forall_mem_cons, unbroken_append]
  refine ⟨?_, ⟨⟨⟨⟨?_, ?_⟩, ?_⟩, h.record⟩, ?_⟩, ⟨⟨⟨⟨?_, ?_⟩, ?_⟩, ?_⟩, ?_⟩, ⟨?_, h.field⟩, ?_, ?_,
    List.forall_mem_nil _⟩ <;> decide

theorem unbroken_blocks {as : List Accessor} (h : ∀ a ∈ as, a.OneLine) :
    ∀ l ∈ as.flatMap Accessor.block, Unbroken l := by
  intro l hl
  obtain ⟨a, ha, hl⟩ := List.mem_flatMap.1 hl
  exact unbroken_block (h a ha) l hl

theorem bodyOf_eq_lines (as : List Accessor) :
    bodyOf as = (as.flatMap Accessor.block).flatMap (· ++ ['\n']) := by
  rw [List.flatMap_assoc]
  rfl

theorem lines_eq_iff {a b : Accessor} : a.lines = b.lines ↔ a = b := by
  constructor
  · intro h
    simp only [Accessor.lines, List.cons.injEq, List.append_cancel_left_eq, List.append_assoc,
      true_and, and_true] at h
    have hrecord := String.toList_inj.1 (List.append_cancel_right h.1)
    have hfield := String.toList_inj.1 h.2
    obtain ⟨record, field⟩ := a
    exact congr (congrArg Accessor.mk hrecord) hfield
  · rintro rfl
    rfl

theorem blocks_inj {as bs : List Accessor}
    (h : as.flatMap Accessor.block = bs.flatMap Accessor.block) : as = bs := by
  have length : ∀ a : Accessor, a.lines.length = 5 := fun _ => rfl
  induction as generalizing bs with
  | nil =>
      cases bs with
      | nil => rfl
      | cons b bs => cases h
  | cons a as ih =>
      cases bs with
      | nil => cases h
      | cons b bs =>
          rw [List.flatMap_cons, List.flatMap_cons, Accessor.block, Accessor.block,
            List.cons_append, List.cons_append] at h
          obtain ⟨hlines, hrest⟩ :=
            List.append_inj (List.cons.inj h).2 ((length a).trans (length b).symm)
          rw [lines_eq_iff.1 hlines, ih hrest]

theorem bodyOf_inj {as bs : List Accessor} (ha : ∀ a ∈ as, a.OneLine) (hb : ∀ b ∈ bs, b.OneLine)
    (h : bodyOf as = bodyOf bs) : as = bs := by
  rw [bodyOf_eq_lines, bodyOf_eq_lines] at h
  have lines := congrArg linesOf h
  rw [linesOf_lines (unbroken_blocks ha), linesOf_lines (unbroken_blocks hb)] at lines
  exact blocks_inj lines

theorem body?_document_eq_iff {ts us : String} {as bs : List Accessor} (ha : ∀ a ∈ as, a.OneLine)
    (hb : ∀ b ∈ bs, b.OneLine) :
    body? (document ts as) = body? (document us bs) ↔ as = bs := by
  rw [body?_document, body?_document]
  constructor
  · intro h
    have chars := String.ofList_inj.1 (Option.some.inj h)
    exact bodyOf_inj ha hb (List.cons.inj (List.append_cancel_left chars)).2
  · rintro rfl
    rfl

end NodeIdGen.Generate
