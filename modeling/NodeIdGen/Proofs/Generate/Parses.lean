import NodeIdGen.Proofs.Generate.Accessors
import NodeIdGen.Proofs.Generate.Tokens

/-!
# Which documents the grammar accepts

A document with accessors whose names fit is read back as one implementation for each accessor, in
the same order, unless a projected position is larger than the grammar admits. Loading a schema
sets no bound on positions, so that exception is real: the last result is about a schema that is
loaded and whose document is refused.
-/

namespace NodeIdGen.Generate

open NodeIdGen.Syntax NodeIdGen.Syntax.Parser NodeIdGen.Schema

/-! ## The implementation for a record -/

/-- The head of the method: it takes the receiver by reference and returns a node id. -/
def accessorSignature : Signature :=
  ⟨false, accessorMethod, false, [.receiver (some none) false none],
   some (.path (.ofName nodeIdType)), false⟩

/-- The method, which projects a part of the receiver. -/
def projectionMethod (m : Member) : Method :=
  ⟨[], accessorSignature, [.expr m.ofSelf false]⟩

/-- The implementation of the trait for a record, with that one method. -/
def implOf (record : String) (m : Member) : Item :=
  .implementation
    ⟨[], false, false, some (.ofName accessorTrait), .path (.ofName record), false,
     [.method (projectionMethod m)]⟩

variable {m : Member} {ts us rest : Rest} {record : String}

theorem runs_signature (k : Nat) :
    Runs (signature (grammar (k + 1)) false)
      (.ident "fn" :: .ident accessorMethod ::
        .group .parenthesis [.punct '&' false, .ident "self"] ::
        .punct '-' true :: .punct '>' false :: .ident nodeIdType :: .group .brace us :: ts)
      (.ok accessorSignature) (.group .brace us :: ts) := by
  have receiver : Runs (do params (grammar (k + 1)) true ((← look).length + 1))
      [.punct '&' false, .ident "self"] (.ok [.receiver (some none) false none]) [] := fun _ => rfl
  have output : Runs (output (grammar (k + 1)) true)
      (.punct '-' true :: .punct '>' false :: .ident nodeIdType :: .group .brace us :: ts)
      (.ok (some (.path (.ofName nodeIdType)))) (.group .brace us :: ts) := fun _ => rfl
  have restricted : Runs (whereClause (grammar (k + 1))) (.group .brace us :: ts) (.ok false)
      (.group .brace us :: ts) := fun _ => rfl
  refine Runs.bind (a := false) (fun _ => rfl) (Runs.bind (a := ()) (fun _ => rfl) ?_)
  refine Runs.bind (a := accessorMethod) (fun _ => rfl) (Runs.bind (a := false) (fun _ => rfl) ?_)
  exact (receiver.group _).bind (output.bind (restricted.bind (Runs.pure _)))

theorem runs_implMember (k : Nat) (h : m.IsPlain) :
    Runs (implMember (grammar (k + 4))) (methodTokens m)
      (m.checked.map fun c => .method (projectionMethod c)) [] := by
  have body : Runs (body (grammar (k + 4))) [.group .brace m.selfTokens]
      (m.checked.map fun c => [.expr c.ofSelf false]) [] :=
    Runs.group _ ((runs_innerAttributes _ rfl).discard.bind (runs_stmts k h))
  refine (runs_outerAttributes _ rfl).bind (Runs.bind (a := false) (fun _ => rfl) ?_)
  refine Runs.look.bind (Runs.look.bind (Runs.bind (a := true) (fun _ => rfl) ?_))
  refine (runs_signature _).bind (Runs.bind (a := false) (fun _ => rfl) ?_)
  exact body.bind_map fun _ _ => rfl

theorem runs_implItem (k : Nat) (hr : isReserved record = false) (h : m.IsPlain) :
    Runs (implItem (grammar (k + 4)) [] false) (implTokens record m ++ rest)
      (m.checked.map (implOf record)) rest := by
  have target : Runs (implTarget (grammar (k + 4)) false)
      (.ident accessorTrait :: .ident "for" :: .ident record ::
        .group .brace (methodTokens m) :: rest)
      (.ok (some (some (.ofName accessorTrait)), .path (.ofName record)))
      (.group .brace (methodTokens m) :: rest) := by
    refine (runs_ty _ (by decide) ⟨rfl, rfl, rfl, rfl⟩).bind ?_
    refine Runs.bind (a := true) (fun _ => rfl) ?_
    exact (runs_ty _ hr ⟨rfl, rfl, rfl, rfl⟩).bind (Runs.pure _)
  have members : Runs (group .brace do
        discard (innerAttributes (grammar (k + 4)))
        toEnd (implMember (grammar (k + 4)))) (.group .brace (methodTokens m) :: rest)
      (m.checked.map fun c => [.method (projectionMethod c)]) rest := by
    refine Runs.group _ ((runs_innerAttributes _ rfl).discard.bind ?_)
    refine (Runs.test rfl).bind (Runs.look.bind ?_)
    exact (runs_implMember k h).bind_map fun _ _ => rfl
  -- neither `default` nor `unsafe`, generic parameters, `const` nor a negation
  refine Runs.bind (a := ()) (fun _ => rfl) (Runs.bind (a := ()) (fun _ => rfl) ?_)
  refine Runs.bind (a := ()) (fun _ => rfl) (Runs.bind (a := false) (fun _ => rfl) ?_)
  refine Runs.bind (a := false) (fun _ => rfl) (Runs.look.bind (Runs.look.bind ?_))
  refine target.bind (Runs.bind (a := false) (fun _ => rfl) ?_)
  exact members.bind_map fun _ _ => rfl

theorem runs_item (k : Nat) (hr : isReserved record = false) (h : m.IsPlain) :
    Runs (grammar (k + 5)).item (implTokens record m ++ rest)
      (m.checked.map (implOf record)) rest := by
  refine (runs_outerAttributes _ rfl).bind (Runs.bind (a := false) (fun _ => rfl) ?_)
  refine Runs.look.bind (Runs.bind (a := false) (fun _ => rfl) ?_)
  exact runs_implItem k hr h

/-! ## All implementations of a document -/

theorem isPlain_memberOf {field : String} (h : isFieldName field = true) :
    (memberOf field).IsPlain := by
  unfold memberOf
  split
  · trivial
  · next hp =>
    rw [isFieldName, Bool.eq_false_iff.2 hp, Bool.or_false] at h
    exact (isIdentifier_iff.1 h).2

/-- A document is read back accessor by accessor, up to the first whose position is too large. -/
theorem parseFile_document (ts : String) {as : List Accessor} (h : ∀ a ∈ as, a.Fits) :
    parseFile (document ts as) =
      as.mapM fun a => (memberOf a.field).checked.map (implOf a.record) := by
  have text : dropInterpreter (dropByteOrderMark (document ts as).toList) =
      (document ts as).toList := by
    unfold document
    rw [String.toList_ofList]
    rfl
  unfold parseFile
  rw [text, lex_document ts h]
  refine Runs.parseAll ((runs_innerAttributes _ ?_).discard.bind ?_)
  · cases as <;> rfl
  · refine Runs.toEnd (fun a _ => List.cons_ne_nil _ _) fun a ha rest => ?_
    have hr := (isIdentifier_iff.1 (h a ha).record).2
    exact runs_item _ hr (isPlain_memberOf (h a ha).field)

/-! ## Documents of a schema -/

theorem checked_index {n : Nat} {c : Member} :
    (Member.index n).checked = .ok c ↔ n < UInt32.size ∧ c = .index n := by
  rw [Member.checked]
  constructor
  · intro h
    split at h
    · next hlt =>
      cases h
      exact ⟨hlt, rfl⟩
    · cases h
  · rintro ⟨hlt, rfl⟩
    rw [if_pos hlt]

theorem checked_memberOf {field : String} {c : Member} : (memberOf field).checked = .ok c ↔
    (∀ n : Nat, field = toString n → n < UInt32.size) ∧ c = memberOf field := by
  by_cases hp : isPosition field = true
  · obtain ⟨n, rfl⟩ := isPosition_iff_toString.1 hp
    rw [memberOf_toString, checked_index]
    refine and_congr_left fun _ => ⟨fun hlt k hk => ?_, fun hall => hall n rfl⟩
    rwa [← eq_of_toString_eq hk]
  · have none : ∀ n : Nat, field ≠ toString n :=
      fun n hn => hp (isPosition_iff_toString.2 ⟨n, hn⟩)
    have hnamed : memberOf field = .named field := if_neg hp
    rw [hnamed, Member.checked]
    constructor
    · intro h
      cases h
      exact ⟨fun n hn => absurd hn (none n), rfl⟩
    · rintro ⟨-, rfl⟩
      rfl

/-- The grammar accepts the document of a loaded schema exactly if no projected position exceeds 32
bits, and then it reads one implementation for each accessor, in their order. -/
theorem parseFile_report_iff {text ts : String} {ds : List Declaration} {r : Report}
    (hload : ofDocument text = .ok ds) (hreport : report ds ts = .ok r) {items : List Item} :
    parseFile r.document = .ok items ↔
      (∀ a ∈ r.accessors, ∀ n : Nat, a.field = toString n → n < UInt32.size) ∧
        items = r.accessors.map fun a => implOf a.record (memberOf a.field) := by
  obtain ⟨_, -, -, hnames, -⟩ := ofDocument_eq_ok.1 hload
  have hfits : ∀ a ∈ r.accessors, a.Fits := by
    intro a ha
    obtain ⟨hrecord, hfield⟩ := names_of_accessors hnames (accessors_of_report hreport) a ha
    exact ⟨hrecord, hfield⟩
  rw [document_of_report hreport, parseFile_document ts hfits]
  refine Except.mapM_ok_iff fun a _ i => ?_
  constructor
  · intro h
    obtain ⟨c, hc, rfl⟩ := Except.map_ok_iff.1 h
    obtain ⟨hsmall, rfl⟩ := checked_memberOf.1 hc
    exact ⟨hsmall, rfl⟩
  · rintro ⟨hsmall, rfl⟩
    exact Except.map_ok_iff.2 ⟨_, checked_memberOf.2 ⟨hsmall, rfl⟩, rfl⟩

/-- A schema document with one record, which has one field, marked as its node id. -/
def markedField (field : String) : String :=
  "\x7b\"schema_version\":\"astgen.schema@0.1.0\",\"decls\":[\x7b\"kind\":\"record\",\"name\":\"A\"," ++
    "\"fields\":[\x7b\"name\":\"" ++ field ++ "\",\"attrs\":[\"identifier-field\"]\x7d]\x7d]\x7d"

theorem largest_position_accepted : ∃ ds r, ofDocument (markedField "4294967295") = .ok ds ∧
    report ds "t\nimpl" = .ok r ∧ parseFile r.document = .ok [implOf "A" (.index 4294967295)] := by
  have load : ofDocument (markedField "4294967295") =
      .ok [.record ⟨"A", ∅, [⟨"4294967295", AttrSet.empty.insert identifierField⟩]⟩] :=
    Except.toOption_eq_some.1 (by decide +kernel)
  have hreport : report [.record ⟨"A", ∅, [⟨"4294967295", AttrSet.empty.insert identifierField⟩]⟩]
      "t\nimpl" = .ok ⟨document "t\nimpl" [⟨"A", "4294967295"⟩], 1, 1, [⟨"A", "4294967295"⟩]⟩ := rfl
  refine ⟨_, _, load, hreport, (parseFile_report_iff load hreport).2 ⟨fun a ha n hn => ?_, ?_⟩⟩
  · rw [List.mem_singleton.1 ha] at hn
    obtain rfl : 4294967295 = n := eq_of_toString_eq hn
    decide
  · exact congrArg (fun m => [implOf "A" m]) (memberOf_toString 4294967295).symm

/-- The schema is loaded and its document is generated, but the grammar refuses the document. -/
theorem larger_position_refused : ∃ ds r, ofDocument (markedField "4294967296") = .ok ds ∧
    report ds "t" = .ok r ∧ ∀ items, parseFile r.document ≠ .ok items := by
  refine ⟨[.record ⟨"A", ∅, [⟨"4294967296", AttrSet.empty.insert identifierField⟩]⟩],
    ⟨document "t" [⟨"A", "4294967296"⟩], 1, 1, [⟨"A", "4294967296"⟩]⟩, ?_, ?_, fun items h => ?_⟩
  · exact Except.toOption_eq_some.1 (by decide +kernel)
  · rfl
  · have fits : ∀ a ∈ [Accessor.mk "A" "4294967296"], a.Fits :=
      List.forall_mem_singleton.2 ⟨by decide +kernel, by decide +kernel⟩
    have value : memberOf "4294967296" = .index 4294967296 := memberOf_toString 4294967296
    rw [parseFile_document "t" fits, List.mapM_cons, value] at h
    cases h

end NodeIdGen.Generate
