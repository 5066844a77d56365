import Mathlib.Data.List.Induction
import NodeIdGen.Generate.Filter

/-!
# Which directive decides

A filter goes through its directives and keeps the best so far. The one that it ends with is
described by where it stands: of those that are about the event, no directive in front of it has a
longer target, and all behind it have a shorter one. So an event is shown exactly if such a
directive lets it through.
-/

namespace NodeIdGen.Generate

variable {f : Filter} {e : Event} {best : Option Directive} {d : Directive}
  {ds before after : List Directive}

namespace Directive

/-- Between those in front of it and those behind it, the directive decides about the event. -/
structure Decides (e : Event) (before : List Directive) (d : Directive) (after : List Directive) :
    Prop where
  about : d.IsAbout e
  front : ∀ b ∈ before, b.IsAbout e → b.weight ≤ d.weight
  back : ∀ a ∈ after, a.IsAbout e → a.weight < d.weight

theorem Decides.weight_le (h : Decides e before d after) :
    ∀ b ∈ before ++ d :: after, b.IsAbout e → b.weight ≤ d.weight := by
  intro b hb habout
  rcases List.mem_append.1 hb with hb | hb
  · exact h.front b hb habout
  · rcases List.mem_cons.1 hb with rfl | hb
    · exact Nat.le_refl _
    · exact Nat.le_of_lt (h.back b hb habout)

theorem preferred_eq_none : preferred e best d = none ↔ best = none ∧ ¬ d.IsAbout e := by
  rw [preferred]
  split
  · next h => exact iff_of_false nofun fun hnone => hnone.2 h.1
  · next h =>
    refine ⟨fun hbest => ⟨hbest, fun habout => h ⟨habout, ?_⟩⟩, And.left⟩
    rw [hbest]
    nofun

theorem foldl_preferred_eq_none :
    ds.foldl (preferred e) none = none ↔ ∀ d ∈ ds, ¬ d.IsAbout e := by
  induction ds using List.reverseRecOn with
  | nil => exact iff_of_true rfl nofun
  | append_singleton ds d ih =>
      rw [List.foldl_append, List.foldl_cons, List.foldl_nil, preferred_eq_none, ih,
        List.forall_mem_append, List.forall_mem_singleton]

/-- What is kept in the end was the best when it came, and nothing behind it was as good. -/
theorem decides_of_foldl (h : ds.foldl (preferred e) none = some d) :
    ∃ before after, ds = before ++ d :: after ∧ Decides e before d after := by
  induction ds using List.reverseRecOn generalizing d with
  | nil => cases h
  | append_singleton ds x ih =>
      rw [List.foldl_append, List.foldl_cons, List.foldl_nil, preferred] at h
      split at h
      · next hx =>
        cases h
        refine ⟨ds, [], rfl, hx.1, fun b hb habout => ?_, nofun⟩
        cases hbest : ds.foldl (preferred e) none with
        | none => exact absurd habout (foldl_preferred_eq_none.1 hbest b hb)
        | some c =>
            obtain ⟨before, after, rfl, hc⟩ := ih hbest
            exact Nat.le_trans (hc.weight_le b hb habout) (hx.2 c hbest)
      · next hx =>
        obtain ⟨before, after, rfl, hd⟩ := ih h
        refine ⟨before, after ++ [x], by simp, hd.about, hd.front, ?_⟩
        refine List.forall_mem_append.2 ⟨hd.back, List.forall_mem_singleton.2 fun habout => ?_⟩
        rw [h] at hx
        exact Nat.lt_of_not_le fun hle => hx ⟨habout, fun b hb => Option.some.inj hb ▸ hle⟩

theorem foldl_preferred_some (h : ∀ a ∈ after, a.IsAbout e → a.weight < d.weight) :
    after.foldl (preferred e) (some d) = some d := by
  induction after with
  | nil => rfl
  | cons a after ih =>
      rw [List.forall_mem_cons] at h
      have kept : preferred e (some d) a = some d :=
        if_neg fun ha => absurd (ha.2 d rfl) (Nat.not_le.2 (h.1 ha.1))
      rw [List.foldl_cons, kept, ih h.2]

theorem foldl_of_decides (h : Decides e before d after) :
    (before ++ d :: after).foldl (preferred e) none = some d := by
  have taken : preferred e (before.foldl (preferred e) none) d = some d := by
    refine if_pos ⟨h.about, fun b hb => ?_⟩
    obtain ⟨front, back, rfl, hdecides⟩ := decides_of_foldl hb
    exact h.front b List.mem_append_cons_self hdecides.about
  rw [List.foldl_append, List.foldl_cons, taken, foldl_preferred_some h.back]

end Directive

namespace Filter

theorem decisive?_eq_some : f.decisive? e = some d ↔
    ∃ before after, f.directives = before ++ d :: after ∧ d.Decides e before after := by
  constructor
  · exact Directive.decides_of_foldl
  · rintro ⟨before, after, hds, h⟩
    rw [decisive?, hds]
    exact Directive.foldl_of_decides h

/-- An event is shown exactly if a directive decides about it that lets its level through. -/
theorem shows_iff : f.shows e = true ↔ ∃ before d after, f.directives = before ++ d :: after ∧
    Directive.Decides e before d after ∧ e.level.rank ≤ d.rank := by
  simp only [shows, Option.any_eq_true, decisive?_eq_some, decide_eq_true_eq]
  constructor
  · rintro ⟨d, ⟨before, after, hds, hd⟩, hrank⟩
    exact ⟨before, d, after, hds, hd, hrank⟩
  · rintro ⟨before, d, after, hds, hd, hrank⟩
    exact ⟨d, ⟨before, after, hds, hd⟩, hrank⟩

/-- The longest target decides, wherever it stands. -/
example : (ofSetting? "astgen_core::generate=ERROR,off,astgen_core=4").map (fun f =>
    [.sourceLoaded 1, .noNodeId "A", .written "o" 1].map f.shows) =
      some [true, false, false] := by
  decide +kernel

end Filter

end NodeIdGen.Generate
