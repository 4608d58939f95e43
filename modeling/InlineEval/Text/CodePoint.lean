/-!
# Tables of code points

A property of characters that no formula gives is a table of ranges of code
points.
-/

namespace InlineEval.Text

/-- Ranges of code points, both ends included, in ascending order. -/
abbrev CodePointRanges := Array (Nat × Nat)

def CodePointRanges.has (table : CodePointRanges) (n : Nat) : Bool :=
  table.any fun range => range.1 ≤ n && n ≤ range.2

end InlineEval.Text
