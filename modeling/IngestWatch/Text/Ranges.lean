/-!
Sets of code points as lists of closed ranges in ascending order.
-/

namespace IngestWatch.Text

/-- The first and the last code point of each range. -/
abbrev Ranges := List (Nat × Nat)

namespace Ranges

/-- Ranges in ascending order, so the search ends at the first range past the point. -/
def contains (n : Nat) : Ranges → Bool
  | [] => false
  | (low, high) :: rest => if n < low then false else n ≤ high || contains n rest

end Ranges

end IngestWatch.Text
