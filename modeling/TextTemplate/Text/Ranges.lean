/-!
# Ranges of code points

A character class is a list of closed ranges of code points.
-/

namespace TextTemplate.Text

/-- Closed ranges of code points. -/
abbrev Ranges := List (Nat × Nat)

/-- Whether one of the ranges holds the character. -/
def Ranges.contains (ranges : Ranges) (c : Char) : Bool :=
  ranges.any fun (first, last) => first ≤ c.toNat && c.toNat ≤ last

theorem Ranges.contains_iff (ranges : Ranges) (c : Char) :
    ranges.contains c = true ↔ ∃ r ∈ ranges, r.1 ≤ c.toNat ∧ c.toNat ≤ r.2 := by
  simp [Ranges.contains]

end TextTemplate.Text
