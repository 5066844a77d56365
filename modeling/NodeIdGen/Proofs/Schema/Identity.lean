import Mathlib.Data.List.Nodup
import NodeIdGen.Proofs.Generate.Accessors

/-!
# Which names are the same identifier

The mark `r#` belongs to the spelling of an identifier, so `A` and `r#A` name one type. Loading
compares spellings, which leaves exactly one way for a schema to declare a type twice: once with the
mark and once without. Because each accessor is about a record of the schema, in the same order, the
same holds of the accessors of a document.

What is *not* the case is that loading refuses such a pair. The last two results say so of one
source text.
-/

namespace NodeIdGen.Schema

open NodeIdGen.Syntax NodeIdGen.Generate

/-- The spelling of an identifier with its mark. -/
def marked (n : String) : String :=
  "r#" ++ n

/-- The identifier that a spelling stands for. -/
def identity (n : String) : String :=
  match n.toList with
  | 'r' :: '#' :: cs => String.ofList cs
  | _ => n

theorem toList_marked (n : String) : (marked n).toList = 'r' :: '#' :: n.toList := by
  simp [marked]

theorem identity_marked (n : String) : identity (marked n) = n := by
  simp [identity, toList_marked]

/-- A spelling has the mark, or it is its own identity. -/
theorem marked_or_identity_eq (n : String) : n = marked (identity n) ∨ identity n = n := by
  unfold identity
  split
  · next cs h =>
    refine .inl (String.toList_inj.1 ?_)
    rw [toList_marked, String.toList_ofList, h]
  · exact .inr rfl

/-- Behind the mark of a word stands a word without a mark. -/
theorem leadingWord?_of_isWord_marked {n : String} (h : IsWord (marked n)) :
    leadingWord? n.toList = some (n.toList, []) := by
  unfold IsWord ident? at h
  rw [toList_marked] at h
  split at h
  · cases h
  · rw [spelledWord?] at h
    split at h
    · next w rest hw =>
      split at h
      · cases h
      · simp only [Option.some.injEq, Prod.mk.injEq] at h
        have hcs := leadingWord?_append hw
        rw [h.2, List.append_nil] at hcs
        rw [hw, h.2, hcs]
    · cases h

/-- So no further mark stands there. -/
theorem identity_eq_of_isWord_marked {n : String} (h : IsWord (marked n)) : identity n = n := by
  rcases marked_or_identity_eq n with hn | hn
  · exfalso
    have hword := leadingWord?_of_isWord_marked h
    rw [hn, toList_marked] at hword
    obtain ⟨c, v, hv, -, htail⟩ := mem_word hword
    cases hv
    exact absurd (htail '#' List.mem_cons_self) (by decide)
  · exact hn

variable {names : List String}

/-- Spellings that differ stand for different identifiers, unless one of them is another one with
the mark. -/
theorem nodup_identity_iff (hnodup : names.Nodup) (hnames : ∀ n ∈ names, isIdentifier n = true) :
    (names.map identity).Nodup ↔ ¬ ∃ n, n ∈ names ∧ marked n ∈ names := by
  constructor
  · rintro h ⟨n, hn, hm⟩
    have hword := (isIdentifier_iff.1 (hnames _ hm)).1
    have same : identity n = identity (marked n) := by
      rw [identity_eq_of_isWord_marked hword, identity_marked]
    have heq : n = marked n := List.inj_on_of_nodup_map h hn hm same
    have := congrArg (·.toList.length) heq
    simp [toList_marked] at this
    omega
  · intro h
    refine hnodup.map_on fun m hm n hn he => ?_
    rcases marked_or_identity_eq m with hm' | hm' <;>
      rcases marked_or_identity_eq n with hn' | hn'
    · rw [hm', hn', he]
    · exact absurd ⟨n, hn, by rwa [← hn', ← he, ← hm']⟩ h
    · exact absurd ⟨m, hm, by rwa [← hm', he, ← hn']⟩ h
    · rw [← hm', ← hn', he]

/-! ## The records of a document -/

/-- Loaded declarations declare no type twice, and a document about them has no two accessors for
one type, exactly if no name stands there both with and without its mark. -/
theorem types_declared_once_iff {ds : List Declaration} (h : Loaded ds) :
    ((ds.map fun d => identity d.name).Nodup ↔
      ¬ ∃ n, n ∈ ds.map Declaration.name ∧ marked n ∈ ds.map Declaration.name) ∧
    ∀ ts r, report ds ts = .ok r →
      ((r.accessors.map fun a => identity a.record).Nodup ↔
        ¬ ∃ n, n ∈ r.accessors.map Accessor.record ∧
          marked n ∈ r.accessors.map Accessor.record) := by
  have names : ∀ n ∈ ds.map Declaration.name, isIdentifier n = true := by
    simpa using fun d hd => (h.fits d hd).name
  refine ⟨?_, fun ts r hr => ?_⟩
  · have := nodup_identity_iff h.nodup names
    rwa [List.map_map] at this
  · have sublist := records_sublist (accessors_of_report hr)
    have := nodup_identity_iff (h.nodup.sublist sublist) fun n hn => names n (sublist.subset hn)
    rwa [List.map_map] at this

theorem two_types_declared_once :
    (ofSource "struct A \x7b id: u8 \x7d struct r#B \x7b id: u8 \x7d").toOption =
      some [.record ⟨"A", ∅, [⟨"id", ∅⟩]⟩, .record ⟨"r#B", ∅, [⟨"id", ∅⟩]⟩] ∧
    (["A", "r#B"].map identity).Nodup := by
  have loaded : (ofSource "struct A \x7b id: u8 \x7d struct r#B \x7b id: u8 \x7d").toOption =
      some [.record ⟨"A", ∅, [⟨"id", ∅⟩]⟩, .record ⟨"r#B", ∅, [⟨"id", ∅⟩]⟩] := by
    decide +kernel
  refine ⟨loaded, ?_⟩
  refine (types_declared_once_iff (.ofSource _ (Except.toOption_eq_some.1 loaded))).1.2 ?_
  rintro ⟨n, hn, hm⟩
  simp only [List.map_cons, List.map_nil, Declaration.name, List.mem_cons, List.not_mem_nil,
    or_false] at hn hm
  rcases hn with rfl | rfl <;> revert hm <;> decide

/-- One type is declared twice, and its document has two accessors for it. -/
theorem one_type_declared_twice :
    ∃ ds r, ofSource "struct A \x7b id: u8 \x7d\nstruct r#A \x7b id: u8 \x7d" = .ok ds ∧
      report ds "t" = .ok r ∧ ¬ (ds.map fun d => identity d.name).Nodup ∧
      ¬ (r.accessors.map fun a => identity a.record).Nodup := by
  refine ⟨[.record ⟨"A", ∅, [⟨"id", ∅⟩]⟩, .record ⟨"r#A", ∅, [⟨"id", ∅⟩]⟩],
    ⟨document "t" [⟨"A", "id"⟩, ⟨"r#A", "id"⟩], 2, 2, [⟨"A", "id"⟩, ⟨"r#A", "id"⟩]⟩, ?_, ?_, ?_, ?_⟩
  · exact Except.toOption_eq_some.1 (by decide +kernel)
  · exact Except.toOption_eq_some.1 (by decide +kernel)
  · decide
  · decide

end NodeIdGen.Schema
