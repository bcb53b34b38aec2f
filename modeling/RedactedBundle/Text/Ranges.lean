/-!
# Ranges of characters

Classes of characters given by ranges of code points.

## Main definitions

- `Text.inRanges`: a character lies in one of some ranges
-/

namespace RedactedBundle.Text

/-- The code point of a character lies in one of the ranges. -/
def inRanges (ranges : List (Nat × Nat)) (c : Char) : Bool :=
  ranges.any fun range => range.1 ≤ c.toNat && c.toNat ≤ range.2

end RedactedBundle.Text
