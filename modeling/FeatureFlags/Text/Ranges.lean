/-!
# Ranges of code points

A class of characters is given by the ranges of code points it consists of, both ends included.
-/

namespace FeatureFlags.Text

/-- Does a code point lie in one of these ranges? -/
def inRanges (ranges : List (Nat × Nat)) (c : Nat) : Bool :=
  ranges.any fun r => r.1 ≤ c && c ≤ r.2

@[simp] theorem inRanges_nil (c : Nat) : inRanges [] c = false := rfl

theorem inRanges_iff {ranges : List (Nat × Nat)} {c : Nat} :
    inRanges ranges c = true ↔ ∃ r ∈ ranges, r.1 ≤ c ∧ c ≤ r.2 := by
  simp [inRanges]

end FeatureFlags.Text
