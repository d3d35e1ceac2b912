/-!
# Ranges of code points

A set of characters is written as a list of closed ranges of code points.
-/

namespace Shorthand.Text

/-- Whether a character lies in one of the closed ranges. -/
def inRanges (ranges : List (Nat × Nat)) (c : Char) : Bool :=
  ranges.any fun range => range.1 ≤ c.toNat && c.toNat ≤ range.2

end Shorthand.Text
