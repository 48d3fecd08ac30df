/-! Sets of characters given by ranges of code points. -/

namespace AspectWeaving.Text

/-- Whether a character's code point lies in one of the ranges, ends included. -/
def inRanges (ranges : List (Nat × Nat)) (c : Char) : Bool :=
  ranges.any fun range => range.1 ≤ c.toNat && c.toNat ≤ range.2

end AspectWeaving.Text
