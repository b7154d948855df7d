/-!
# Sets of code points

A property of characters is kept as a table: a list of closed ranges of code points in increasing
order, no two of them touching. A code point has the property when it lies in one of the ranges.
-/

set_option autoImplicit false

namespace PeerLending

namespace Text

/-- Whether a number lies in one of the closed ranges of a table. -/
def inRanges (n : Nat) (ranges : List (Nat × Nat)) : Bool :=
  ranges.any fun (lo, hi) => lo ≤ n && n ≤ hi

end Text

end PeerLending
