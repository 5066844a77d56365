import Mathlib.Data.List.TakeWhile
import NodeIdGen.Proofs.Generate.Parts

/-!
# What counts as a header

The time stamp of a header is written without line breaks, so the header ends where its second line
does, whatever the time stamp and whatever follows: `document_differs_in_stamp` says so of two runs
over the same declarations.

The converse is weaker. `body?` asks a text for the first line of a header and for the start of the
second, and takes the second line as it finds it. So it also accepts texts whose second line does
not name the producer, holds a carriage return, or is not ended. `body?_eq_some_iff` says which
texts are accepted, and `header_recognised_iff` for which of them a header is what was recognised.
-/

namespace NodeIdGen.Generate

open NodeIdGen.Schema NodeIdGen.Text

/-! ## Behind a header -/

/-- The time stamp as it is written: every line break is a space. -/
def onOneLine (timestamp : String) : String :=
  String.ofList (timestamp.toList.map lineChar)

theorem onOneLine_eq_iff {t u : String} :
    onOneLine t = onOneLine u ↔ t.toList.map lineChar = u.toList.map lineChar :=
  String.ofList_inj

theorem headerChars_inj {t u : String} :
    headerChars t = headerChars u ↔ onOneLine t = onOneLine u := by
  rw [onOneLine_eq_iff]
  simp only [headerChars, producedLine, List.append_assoc, List.append_cancel_left_eq,
    List.cons.injEq, true_and, List.append_cancel_right_eq]

theorem body?_header_append (t b : String) :
    body? (header t ++ b) = some (generatedMarker ++ "\n" ++ b) := by
  rw [body?, header, String.toList_append, String.toList_ofList, bodyChars?_header, Option.map_some]
  refine congrArg some (String.toList_inj.1 ?_)
  simp

theorem document_eq_iff {t u : String} {as : List Accessor} :
    document t as = document u as ↔ onOneLine t = onOneLine u := by
  rw [document, document, String.ofList_inj, List.append_cancel_right_eq, headerChars_inj]

/-- Two runs over the same declarations stop with the same error, or they report the same and their
documents differ in the line of the time stamp alone: what is kept without it is the marker and the
text that both documents have behind their headers. The documents are equal exactly if the time
stamps are, up to line breaks that are written as spaces. A header ends in the same place whatever
text stands behind it. -/
theorem document_differs_in_stamp (ds : List Declaration) (t u : String) :
    (match report ds t, report ds u with
      | .error e, .error f => e = f
      | .ok r, .ok s =>
        r.declarations = s.declarations ∧ r.records = s.records ∧ r.accessors = s.accessors ∧
        (∃ b, r.document = header t ++ b ∧ s.document = header u ++ b ∧
          body? r.document = some (generatedMarker ++ "\n" ++ b) ∧
          body? s.document = some (generatedMarker ++ "\n" ++ b)) ∧
        bodyDigest r.document = bodyDigest s.document ∧
        (r.document = s.document ↔ onOneLine t = onOneLine u)
      | .ok _, .error _ | .error _, .ok _ => False) ∧
    ∀ b, body? (header t ++ b) = some (generatedMarker ++ "\n" ++ b) := by
  refine ⟨?_, body?_header_append t⟩
  rw [report_eq, report_eq]
  cases (recordsOf ds).findSome? ambiguity? with
  | some e => rfl
  | none =>
      let b := String.ofList (bodyOf ((recordsOf ds).filterMap accessor?))
      have text (v : String) : (reportOf ds v).document = header v ++ b := by
        rw [reportOf, document_eq_header_append, withoutHeader_document]
      have kept (v : String) :
          body? (reportOf ds v).document = some (generatedMarker ++ "\n" ++ b) := by
        rw [text, body?_header_append]
      refine ⟨rfl, rfl, rfl, ⟨b, text t, text u, kept t, kept u⟩, ?_, document_eq_iff⟩
      rw [bodyDigest, bodyDigest, kept, kept, Option.getD_some, Option.getD_some]

/-! ## In front of a body -/

/-- What stands behind the time stamp in its line. -/
def stampEnd : List Char :=
  " by ".toList ++ producer.toList

/-- The text starts with the first line of a header, and its second line starts as the one with the
time stamp does. `line` is what this line holds behind its start, and `rest` what follows it, from
the line break on. -/
structure HasHead (doc : String) (line rest : List Char) : Prop where
  text : doc.toList = generatedMarker.toList ++ '\n' :: (producedMark.toList ++ (line ++ rest))
  unbroken : '\n' ∉ line
  stops : rest = [] ∨ ∃ b, rest = '\n' :: b

namespace HasHead

variable {doc : String} {line rest : List Char}

theorem cut (h : HasHead doc line rest) :
    (line ++ rest).takeWhile (· ≠ '\n') = line ∧ (line ++ rest).dropWhile (· ≠ '\n') = rest := by
  have inLine : ∀ c ∈ line, decide (c ≠ '\n') = true := by
    intro c hc
    rw [decide_eq_true_eq]
    rintro rfl
    exact h.unbroken hc
  rw [List.takeWhile_append_of_pos inLine, List.dropWhile_append_of_pos inLine]
  rcases h.stops with rfl | ⟨b, rfl⟩ <;> simp

theorem unique (h : HasHead doc line rest) {line' rest' : List Char}
    (h' : HasHead doc line' rest') : line = line' ∧ rest = rest' := by
  have text := h.text.symm.trans h'.text
  have behind : line ++ rest = line' ++ rest' := by
    simpa using text
  exact ⟨h.cut.1.symm.trans (behind ▸ h'.cut.1), h.cut.2.symm.trans (behind ▸ h'.cut.2)⟩

theorem header_append (t b : String) :
    HasHead (header t ++ b) ((onOneLine t).toList ++ stampEnd) ('\n' :: b.toList) := by
  have broken := (unbroken_producedLine t).newline_not_mem
  refine ⟨?_, ?_, .inr ⟨_, rfl⟩⟩
  · simp [header, headerChars, producedLine, stampEnd, onOneLine]
  · simp only [producedLine, List.append_assoc] at broken
    rw [onOneLine, String.toList_ofList]
    exact fun h => broken (List.mem_append_right _ h)

/-- A second line that ends as one with a time stamp, and is ended itself, is one. -/
theorem eq_header_append {stamp b : List Char} (h : HasHead doc (stamp ++ stampEnd) ('\n' :: b))
    (hstamp : '\r' ∉ stamp) : doc = header (String.ofList stamp) ++ String.ofList b := by
  have same : stamp.map lineChar = stamp := by
    refine (List.map_congr_left fun c hc => ?_).trans (List.map_id stamp)
    refine if_neg ?_
    rintro (rfl | rfl)
    · exact hstamp hc
    · exact h.unbroken (List.mem_append_left _ hc)
  rw [← String.toList_inj, h.text]
  simp [header, headerChars, producedLine, same, stampEnd]

end HasHead

/-- The texts that are taken for documents with a header, and what is kept of them. -/
theorem body?_eq_some_iff {doc body : String} :
    body? doc = some body ↔ ∃ line rest, HasHead doc line rest ∧
      body = generatedMarker ++ "\n" ++ String.ofList (rest.drop 1) := by
  have kept (rest : List Char) : String.ofList (generatedMarker.toList ++ '\n' :: rest.drop 1) =
      generatedMarker ++ "\n" ++ String.ofList (rest.drop 1) := by
    refine String.toList_inj.1 ?_
    simp
  rw [body?, Option.map_eq_some_iff]
  simp only [bodyChars?_eq_some_iff]
  constructor
  · rintro ⟨_, ⟨behind, hdoc, rfl⟩, rfl⟩
    refine ⟨behind.takeWhile (· ≠ '\n'), behind.dropWhile (· ≠ '\n'), ⟨?_, ?_, ?_⟩, kept _⟩
    · rw [hdoc, List.takeWhile_append_dropWhile]
    · intro hmem
      simpa using List.mem_takeWhile_imp hmem
    · have break? := List.head?_dropWhile_not (· ≠ '\n') behind
      cases hrest : behind.dropWhile (· ≠ '\n') with
      | nil => exact .inl rfl
      | cons c b =>
          rw [hrest] at break?
          obtain rfl : c = '\n' := by simpa using break?
          exact .inr ⟨b, rfl⟩
  · rintro ⟨line, rest, h, rfl⟩
    exact ⟨_, ⟨line ++ rest, h.text, rfl⟩, by rw [h.cut.2, kept]⟩

/-- A text is taken for a document with a header exactly if its first two lines start as those of a
header do, and then everything behind the second line is kept. That it really has a header, and that
what is kept is what stands behind that, is right exactly if a second line that starts so also ends
as a header's does, with the producer, without a carriage return and with a line break. -/
theorem header_recognised_iff (doc : String) :
    (∀ body, body? doc = some body ↔ ∃ line rest, HasHead doc line rest ∧
      body = generatedMarker ++ "\n" ++ String.ofList (rest.drop 1)) ∧
    ((∀ body, body? doc = some body ↔
        ∃ t b, doc = header t ++ b ∧ body = generatedMarker ++ "\n" ++ b) ↔
      ∀ line rest, HasHead doc line rest →
        (∃ stamp, line = stamp ++ stampEnd ∧ '\r' ∉ stamp) ∧ rest ≠ []) := by
  refine ⟨fun body => body?_eq_some_iff, ?_, ?_⟩
  · intro recognised line rest h
    obtain ⟨t, b, rfl, -⟩ := (recognised _).1 (body?_eq_some_iff.2 ⟨line, rest, h, rfl⟩)
    obtain ⟨rfl, rfl⟩ := h.unique (.header_append t b)
    refine ⟨⟨_, rfl, fun hreturn => ?_⟩, List.cons_ne_nil _ _⟩
    rw [onOneLine, String.toList_ofList] at hreturn
    obtain ⟨c, -, hc⟩ := List.mem_map.1 hreturn
    exact (lineChar_ne c).2 hc
  · intro complete body
    constructor
    · intro hbody
      obtain ⟨line, rest, h, rfl⟩ := body?_eq_some_iff.1 hbody
      obtain ⟨⟨stamp, rfl, hstamp⟩, hrest⟩ := complete line rest h
      obtain ⟨b, rfl⟩ := h.stops.resolve_left hrest
      exact ⟨_, _, h.eq_header_append hstamp, rfl⟩
    · rintro ⟨t, b, rfl, rfl⟩
      exact body?_header_append t b

/-- A second line without the producer is taken for that of a header. -/
theorem unnamed_producer_recognised :
    body? "// AUTOMATICALLY GENERATED - DO NOT EDIT\n// Produced x\n" =
      some "// AUTOMATICALLY GENERATED - DO NOT EDIT\n" ∧
    ∀ t b, "// AUTOMATICALLY GENERATED - DO NOT EDIT\n// Produced x\n" ≠ header t ++ b := by
  refine ⟨by decide +kernel, fun t b h => ?_⟩
  have head : HasHead "// AUTOMATICALLY GENERATED - DO NOT EDIT\n// Produced x\n" ['x'] ['\n'] :=
    ⟨by decide +kernel, by decide, .inr ⟨[], rfl⟩⟩
  have written := HasHead.header_append t b
  rw [← h] at written
  have line := congrArg List.length (head.unique written).1
  have stampEnd_length : stampEnd.length = 10 := rfl
  rw [List.length_append, List.length_singleton, stampEnd_length] at line
  omega

end NodeIdGen.Generate
