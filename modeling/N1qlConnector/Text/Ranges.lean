/-!
# Character classes as lists of ranges

A class of characters that a standard defines by enumeration is kept as the list of its ranges, each
with its first and its last code point.
-/

namespace N1qlConnector.Text

/-- Ranges of code points, in ascending order. -/
structure Ranges where
  toList : List (Nat × Nat)

/-- Whether a character lies in one of the ranges. -/
def Ranges.contains (ranges : Ranges) (c : Char) : Bool :=
  ranges.toList.any fun range => decide (range.1 ≤ c.toNat) && decide (c.toNat ≤ range.2)

end N1qlConnector.Text
