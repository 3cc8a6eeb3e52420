/-!
# Ranges of characters

A set of code points as an ascending list of closed ranges.
-/

namespace UnitWatch.Text

/-- Closed ranges of code points, in ascending order. -/
abbrev Ranges := List (Nat × Nat)

namespace Ranges

/-- Whether a code point lies in one of the ranges; the search stops at the first range above it. -/
def coversCode : Ranges → Nat → Bool
  | [], _ => false
  | (low, high) :: rest, c => if c < low then false else c ≤ high || coversCode rest c

def covers (r : Ranges) (c : Char) : Bool := r.coversCode c.toNat

end Ranges

end UnitWatch.Text
