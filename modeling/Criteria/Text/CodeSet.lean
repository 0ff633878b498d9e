set_option autoImplicit false
set_option relaxedAutoImplicit false

/-!
# Sets of characters given by boundaries

A set of code points is kept as the sorted list of points at which membership changes, so a point is
in the set when an odd number of boundaries lies at or below it.
-/

namespace Criteria.Text

/-- A set of code points, as the sorted points where membership changes. -/
structure CodeSet where
  boundaries : Array Nat

namespace CodeSet

def rankBetween (s : CodeSet) (point low high : Nat) : Nat :=
  if low < high then
    let middle := (low + high) / 2
    if s.boundaries.getD middle 0 ≤ point then s.rankBetween point (middle + 1) high
    else s.rankBetween point low middle
  else low
termination_by high - low

def contains (s : CodeSet) (point : Nat) : Bool :=
  s.rankBetween point 0 s.boundaries.size % 2 == 1

end CodeSet

end Criteria.Text
