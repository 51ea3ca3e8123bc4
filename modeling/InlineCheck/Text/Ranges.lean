/-! # Ranges of code points

A class of characters given as a list of inclusive ranges of code points.
-/

namespace InlineCheck.Text

def inRanges (n : Nat) (ranges : List (Nat × Nat)) : Bool :=
  ranges.any fun (low, high) => low ≤ n && n ≤ high

theorem inRanges_iff {n : Nat} {ranges : List (Nat × Nat)} :
    inRanges n ranges = true ↔ ∃ r ∈ ranges, r.1 ≤ n ∧ n ≤ r.2 := by
  simp [inRanges]

end InlineCheck.Text
