import Criteria.Proofs.Rule.FaultSource
import Criteria.Proofs.Value.Equality

set_option autoImplicit false
set_option relaxedAutoImplicit false

/-!
# When comparisons and types answer

Comparisons and types answer for values of every kind, with few exceptions. A number that is out of
range stops the tests that ask whether it is a number at all, containers that hold themselves can make an
equality go on without end, and a written pattern stops a search when it is in bytes or has a number in it
that cannot be dealt with. Operands that do not suit a comparison are answered like unequal ones.
-/

namespace Criteria

namespace Value

variable {v argument name : Value} {items items' : List Value} {entries others : List (Value × Value)}
  {f : Fault}

end Value

namespace Pattern

end Pattern

namespace Comparison

variable {c : Comparison} {v argument : Value} {f : Fault}

end Comparison

/-- Two lists that hold only themselves are compared without end; with a number beside it each is told from
the other at once. -/
example :
    let loop (first : Value) : Value := .knot [.list [first, .link 0]] 0
    (loop .null).strictEquals (loop .null) = .error .endless ∧
      (loop (.int 1)).strictEquals (loop (.int 2)) = .ok false := by
  decide +kernel

end Criteria
