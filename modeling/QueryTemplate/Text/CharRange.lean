/-!
# Ranges of characters

Classes of characters are given as ranges of code points.
-/

namespace QueryTemplate

/-- The code points from the first to the second, both included. -/
abbrev CharRange := Nat × Nat

/-- Whether a character lies in one of the ranges. -/
def inRanges (ranges : Array CharRange) (c : Char) : Bool :=
  ranges.any fun r => r.1 ≤ c.toNat && c.toNat ≤ r.2

/-- A character lies in some range exactly when one of the ranges holds its code point. -/
theorem inRanges_eq_true_iff (ranges : Array CharRange) (c : Char) :
    inRanges ranges c = true ↔ ∃ r ∈ ranges, r.1 ≤ c.toNat ∧ c.toNat ≤ r.2 := by
  simp only [inRanges, Array.any_eq_true', Bool.and_eq_true, decide_eq_true_eq]

end QueryTemplate
