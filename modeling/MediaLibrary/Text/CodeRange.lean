/-!
# Text — ranges of code points

A property of characters is kept as a table of closed ranges of code points, in
ascending order and apart from one another.
-/

namespace MediaLibrary.Text

/-- The character lies in one of the ranges. -/
def inRanges (ranges : List (Nat × Nat)) (c : Char) : Bool :=
  ranges.any fun range => range.1 ≤ c.toNat && c.toNat ≤ range.2

end MediaLibrary.Text
