/-!
# Ranges of characters

A property of characters is told by the ranges of the code points that have it.
-/

namespace Trendline.Text

/-- Whether the code of a character is in one of the ranges. -/
def inRanges (ranges : List (Nat × Nat)) (c : Char) : Bool :=
  ranges.any fun (low, high) => low ≤ c.toNat && c.toNat ≤ high

end Trendline.Text
