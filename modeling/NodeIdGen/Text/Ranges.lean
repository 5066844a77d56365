/-!
# Character classes given by ranges

A class of characters is a list of closed ranges of code points. `Ranges.holds` decides
membership and `holds_iff` names the range that holds the point.
-/

namespace NodeIdGen.Text

/-- Closed ranges of code points, in ascending order. -/
abbrev Ranges := List (Nat × Nat)

namespace Ranges

/-- Some range holds the code point. -/
def holds (rs : Ranges) (n : Nat) : Bool :=
  rs.any fun r => decide (r.1 ≤ n) && decide (n ≤ r.2)

theorem holds_iff {rs : Ranges} {n : Nat} :
    rs.holds n = true ↔ ∃ r ∈ rs, r.1 ≤ n ∧ n ≤ r.2 := by
  simp [holds]

end Ranges

end NodeIdGen.Text
