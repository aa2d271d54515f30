/-!
# Ranges of characters

A property of characters is a table of the code points that have it.
-/

namespace Chartboard.Text

/-- Code points as inclusive ranges in ascending order. -/
abbrev CodeRanges := List (Nat × Nat)

/-- The character is in one of the ranges. -/
def CodeRanges.has (ranges : CodeRanges) (c : Char) : Bool :=
  ranges.any fun r => r.1 ≤ c.toNat && c.toNat ≤ r.2

end Chartboard.Text
