import Mathlib.Data.List.Basic
import NodeIdGen.Proofs.Except
import NodeIdGen.Proofs.Generate.Body

/-!
# A run works on each record for itself

What a run makes of a list of declarations is put together from what it makes of the records in it,
each looked at for itself. `accessors_eq` says so: the accessors are those of the records, in their
order, unless some record is ambiguous, and then the first such record is what is reported. All else
follows: the run over two lists one behind the other is the two runs one behind the other, and
declarations that are no records leave no trace but their number.
-/

namespace NodeIdGen.Generate

open NodeIdGen.Schema

/-! ## One record -/

/-- How many fields of the record are marked as its node id. -/
def markedCount (r : Record) : Nat :=
  r.fields.countP isMarked

/-- The record is to have a node id, and more than one field is marked as it. -/
def IsAmbiguous (r : Record) : Prop :=
  noIdentifier ∉ r.attrs ∧ 2 ≤ markedCount r

instance (m : String) (s : AttrSet) : Decidable (m ∈ s) :=
  inferInstanceAs (Decidable (m ∈ s.items))

instance (r : Record) : Decidable (IsAmbiguous r) :=
  inferInstanceAs (Decidable (_ ∧ _))

/-- The error of a record whose node id is ambiguous. -/
def ambiguity? (r : Record) : Option Error :=
  if IsAmbiguous r then some (.ambiguousIdentifier r.name (markedCount r)) else none

/-- The accessor of a record whose node id can be told, if it has one. -/
def accessor? (r : Record) : Option Accessor :=
  match nodeId? r with
  | .ok (some field) => some ⟨r.name, field⟩
  | .ok none | .error _ => none

theorem ambiguity?_eq_some {r : Record} {e : Error} :
    ambiguity? r = some e ↔ IsAmbiguous r ∧ e = .ambiguousIdentifier r.name (markedCount r) := by
  simp [ambiguity?, eq_comm]

theorem ambiguity?_eq_none {r : Record} : ambiguity? r = none ↔ ¬ IsAmbiguous r := by
  simp [ambiguity?]

theorem nodeId?_eq_error {r : Record} {e : Error} :
    nodeId? r = .error e ↔ ambiguity? r = some e := by
  rw [ambiguity?_eq_some]
  unfold nodeId? IsAmbiguous markedCount
  rw [List.countP_eq_length_filter, ← AttrSet.contains_iff]
  split
  · next h => simp [h]
  · next h =>
    match r.fields.filter isMarked with
    | [] => simp
    | [f] => simp
    | f :: g :: fs => simp [h, eq_comm]

theorem ambiguity?_of_ok {r : Record} {n : Option String} (h : nodeId? r = .ok n) :
    ambiguity? r = none := by
  refine Option.eq_none_iff_forall_ne_some.2 ?_
  intro e he
  rw [nodeId?_eq_error.2 he] at h
  cases h

/-! ## All records -/

/-- The records among the declarations, in their order. -/
def recordsOf (ds : List Declaration) : List Record :=
  ds.filterMap fun
    | .record r => some r
    | .variant _ | .flagSet _ => none

theorem recordsOf_append (xs ys : List Declaration) :
    recordsOf (xs ++ ys) = recordsOf xs ++ recordsOf ys :=
  List.filterMap_append

theorem recordsOf_records (rs : List Record) : recordsOf (rs.map .record) = rs := by
  simp [recordsOf, List.filterMap_map]

theorem length_recordsOf (ds : List Declaration) :
    (recordsOf ds).length = (ds.filter isRecord).length := by
  induction ds with
  | nil => rfl
  | cons d ds ih =>
      cases d with
      | record r => exact congrArg Nat.succ ih
      | variant v => exact ih
      | flagSet f => exact ih

/-- A run looks at the records one by one and stops at the first that is ambiguous. -/
theorem accessors_eq (ds : List Declaration) :
    accessors ds =
      ((recordsOf ds).findSome? ambiguity?).elim (.ok ((recordsOf ds).filterMap accessor?))
        .error := by
  induction ds with
  | nil => rfl
  | cons d ds ih =>
      cases d with
      | variant v => exact ih
      | flagSet f => exact ih
      | record r =>
          change accessors (.record r :: ds) =
            ((r :: recordsOf ds).findSome? ambiguity?).elim
              (.ok ((r :: recordsOf ds).filterMap accessor?)) .error
          rw [List.findSome?_cons, List.filterMap_cons, accessors, ih]
          cases h : nodeId? r with
          | error e => simp [decisionOf, h, nodeId?_eq_error.1 h]
          | ok found =>
              have told := ambiguity?_of_ok h
              cases found with
              | none => simp [decisionOf, accessor?, h, told]
              | some field =>
                  simp only [decisionOf, accessor?, h, told]
                  cases (recordsOf ds).findSome? ambiguity? <;> rfl

/-- What a run reports of declarations among which no record is ambiguous. -/
def reportOf (ds : List Declaration) (ts : String) : Report :=
  let as := (recordsOf ds).filterMap accessor?
  ⟨document ts as, ds.length, (recordsOf ds).length, as⟩

theorem report_eq (ds : List Declaration) (ts : String) :
    report ds ts = ((recordsOf ds).findSome? ambiguity?).elim (.ok (reportOf ds ts)) .error := by
  rw [report_eq_accessors, accessors_eq, reportOf, length_recordsOf]
  cases (recordsOf ds).findSome? ambiguity? <;> rfl

theorem report_eq_ok {ds : List Declaration} {ts : String} {r : Report} :
    report ds ts = .ok r ↔ (∀ q ∈ recordsOf ds, ¬ IsAmbiguous q) ∧ r = reportOf ds ts := by
  rw [report_eq, Except.elim_ok_iff, List.findSome?_eq_none_iff, eq_comm]
  simp only [ambiguity?_eq_none]

theorem report_eq_error {ds : List Declaration} {ts : String} {e : Error} :
    report ds ts = .error e ↔ ∃ before r after, recordsOf ds = before ++ r :: after ∧
      (∀ q ∈ before, ¬ IsAmbiguous q) ∧ IsAmbiguous r ∧
      e = .ambiguousIdentifier r.name (markedCount r) := by
  rw [report_eq, Except.elim_error_iff, List.findSome?_eq_some_iff]
  simp only [ambiguity?_eq_some, ambiguity?_eq_none]
  constructor
  · rintro ⟨before, r, after, hds, ⟨hr, he⟩, hbefore⟩
    exact ⟨before, r, after, hds, hbefore, hr, he⟩
  · rintro ⟨before, r, after, hds, hbefore, hr, he⟩
    exact ⟨before, r, after, hds, ⟨hr, he⟩, hbefore⟩

/-! ## Two lists one behind the other -/

/-- A document without the header with the time stamp, if it starts with that. -/
def withoutHeader (ts doc : String) : String :=
  String.ofList ((behind? (headerChars ts) doc.toList).getD doc.toList)

theorem withoutHeader_document (ts : String) (as : List Accessor) :
    withoutHeader ts (document ts as) = String.ofList (bodyOf as) := by
  rw [withoutHeader, document, String.toList_ofList, behind?_append, Option.getD_some]

theorem document_eq_header_append (ts : String) (as : List Accessor) :
    document ts as = header ts ++ withoutHeader ts (document ts as) := by
  rw [withoutHeader_document, document, header, String.ofList_append]

theorem document_append (ts : String) (as bs : List Accessor) :
    document ts (as ++ bs) = document ts as ++ withoutHeader ts (document ts bs) := by
  rw [withoutHeader_document, document, document, bodyOf, List.flatMap_append, ← List.append_assoc,
    String.ofList_append]
  rfl

/-- The report of what two runs with the same time stamp made, one behind the other. -/
def Report.append (ts : String) (r s : Report) : Report :=
  ⟨r.document ++ withoutHeader ts s.document, r.declarations + s.declarations,
    r.records + s.records, r.accessors ++ s.accessors⟩

theorem reportOf_append (xs ys : List Declaration) (ts : String) :
    reportOf (xs ++ ys) ts = (reportOf xs ts).append ts (reportOf ys ts) := by
  simp only [reportOf, Report.append, recordsOf_append, List.filterMap_append, document_append,
    List.length_append]

theorem report_append (xs ys : List Declaration) (ts : String) :
    report (xs ++ ys) ts = match report xs ts, report ys ts with
      | .error e, _ => .error e
      | .ok _, .error e => .error e
      | .ok r, .ok s => .ok (r.append ts s) := by
  simp only [report_eq, recordsOf_append, List.findSome?_append, reportOf_append]
  cases (recordsOf xs).findSome? ambiguity? with
  | some e => rfl
  | none => cases (recordsOf ys).findSome? ambiguity? <;> rfl

/-- A declaration that is no record only adds to the number of declarations. -/
theorem report_records (ds : List Declaration) (ts : String) :
    report ((recordsOf ds).map .record) ts =
      (report ds ts).map fun r => { r with declarations := r.records } := by
  rw [report_eq, report_eq, recordsOf_records, reportOf, recordsOf_records, List.length_map]
  cases (recordsOf ds).findSome? ambiguity? <;> rfl

/-- The run over two lists is the two runs, one behind the other: it stops where the first of them
stops, and otherwise puts together what they made. A run stops exactly at the first ambiguous
record. Otherwise its accessors are those of the records, in their order. Declarations that are no
records only add to the number of declarations. -/
theorem report_by_parts (xs ys : List Declaration) (ts : String) :
    (report (xs ++ ys) ts = match report xs ts, report ys ts with
      | .error e, _ => .error e
      | .ok _, .error e => .error e
      | .ok r, .ok s => .ok
          ⟨r.document ++ withoutHeader ts s.document, r.declarations + s.declarations,
            r.records + s.records, r.accessors ++ s.accessors⟩) ∧
    (∀ as, document ts as = header ts ++ withoutHeader ts (document ts as)) ∧
    (∀ e, report xs ts = .error e ↔ ∃ before r after, recordsOf xs = before ++ r :: after ∧
      (∀ q ∈ before, ¬ IsAmbiguous q) ∧ IsAmbiguous r ∧
      e = .ambiguousIdentifier r.name (markedCount r)) ∧
    (∀ r, report xs ts = .ok r ↔ (∀ q ∈ recordsOf xs, ¬ IsAmbiguous q) ∧
      r.accessors = (recordsOf xs).filterMap accessor? ∧ r.document = document ts r.accessors ∧
      r.declarations = xs.length ∧ r.records = (recordsOf xs).length) ∧
    report ((recordsOf xs).map .record) ts =
      (report xs ts).map fun r => { r with declarations := r.records } := by
  refine ⟨report_append xs ys ts, document_eq_header_append ts, fun e => report_eq_error, ?_,
    report_records xs ts⟩
  rintro ⟨doc, declarations, records, as⟩
  rw [report_eq_ok]
  refine and_congr_right fun _ => ?_
  simp only [reportOf, Report.mk.injEq]
  constructor
  · rintro ⟨rfl, rfl, rfl, rfl⟩
    exact ⟨rfl, rfl, rfl, rfl⟩
  · rintro ⟨rfl, rfl, rfl, rfl⟩
    exact ⟨rfl, rfl, rfl, rfl⟩

end NodeIdGen.Generate
