/-!
# Sets of code points

A character property is a set of code points, and the properties in use
here are unions of a few hundred closed ranges. They are kept as such:
membership is a search, and what a table says can be read off it.
-/

namespace Playscript.Text

/-- **A set of code points**, as closed ranges. -/
abbrev CodePoints := List (Nat × Nat)

/-- Whether a character lies in one of the ranges. -/
def CodePoints.contains (ranges : CodePoints) (c : Char) : Bool :=
  ranges.any fun range => range.1 ≤ c.toNat && c.toNat ≤ range.2

/-- Membership is membership of some range. -/
theorem CodePoints.contains_iff {ranges : CodePoints} {c : Char} :
    ranges.contains c = true ↔ ∃ range ∈ ranges, range.1 ≤ c.toNat ∧ c.toNat ≤ range.2 := by
  simp [CodePoints.contains]

end Playscript.Text
