import Criteria.Fault
import Criteria.Number.Decimal

set_option autoImplicit false
set_option relaxedAutoImplicit false

/-!
# Numbers of four forms, compared exactly

An integer, a double-precision number, a decimal and a fraction that stand for the same rational are
equal, and order goes by that rational. Exponents of decimals are unbounded, so a finite value is
kept as a ratio and a power of ten, and two of them are compared without writing out large powers.
-/

namespace Criteria

/-- A number; an unmeasured one has no value that arithmetic could reach. -/
inductive Number
  | int (n : Int)
  | float (x : BinaryFloat)
  | decimal (d : Decimal)
  | fraction (q : Rat)
  | unmeasured
  deriving DecidableEq, Repr

/-- The exact value `ratio · 10 ^ exponent`. -/
structure Scaled where
  ratio : Rat
  exponent : Int
  deriving DecidableEq, Repr

namespace Scaled

/-- Compare `x · 10 ^ places` with `y`; more places than digits of `y` settle it by sign. -/
def compareShifted (x : Int) (places : Nat) (y : Int) : Ordering :=
  if x == 0 then compare 0 y
  else if places > BinaryFloat.digitCount y.natAbs then compare x 0
  else compare (x * Nat.pow 10 places) y

def order (a b : Scaled) : Ordering :=
  let x := a.ratio.num * b.ratio.den
  let y := b.ratio.num * a.ratio.den
  if b.exponent ≤ a.exponent then compareShifted x (a.exponent - b.exponent).toNat y
  else (compareShifted y (b.exponent - a.exponent).toNat x).swap

def isInteger (a : Scaled) : Bool :=
  if 0 ≤ a.exponent then
    a.ratio.den == 1 || a.ratio.num * Nat.pow 10 a.exponent.toNat % a.ratio.den == 0
  else
    let places := (-a.exponent).toNat
    a.ratio.num == 0 ||
      (places ≤ BinaryFloat.digitCount a.ratio.num.natAbs
        && a.ratio.num % ((a.ratio.den : Int) * Nat.pow 10 places) == 0)

def truncate (a : Scaled) : Int :=
  if 0 ≤ a.exponent then (a.ratio.num * Nat.pow 10 a.exponent.toNat).tdiv a.ratio.den
  else
    let places := (-a.exponent).toNat
    if places > BinaryFloat.digitCount a.ratio.num.natAbs then 0
    else a.ratio.num.tdiv ((a.ratio.den : Int) * Nat.pow 10 places)

end Scaled

/-- Where a number lies: at an exact value, beyond all of them, or nowhere. -/
inductive Measure
  | exact (value : Scaled)
  | infinite (negative : Bool)
  | nowhere
  deriving DecidableEq, Repr

namespace Measure

/-- The order of two measures; nowhere is in no order with anything. -/
def order? : Measure → Measure → Option Ordering
  | .nowhere, _ => none
  | _, .nowhere => none
  | .exact a, .exact b => some (a.order b)
  | .exact _, .infinite negative => some (if negative then .gt else .lt)
  | .infinite negative, .exact _ => some (if negative then .lt else .gt)
  | .infinite a, .infinite b => some (if a == b then .eq else if a then .lt else .gt)

end Measure

def BinaryFloat.measure (x : BinaryFloat) : Measure :=
  match x with
  | .infinite negative => .infinite negative
  | .nan => .nowhere
  | .finite .. =>
    match x.toRat? with
    | some q => .exact ⟨q, 0⟩
    | none => .nowhere

def Decimal.measure : Decimal → Measure
  | .finite negative coefficient exponent =>
    .exact ⟨if negative then -(coefficient : Rat) else coefficient, exponent⟩
  | .infinite negative => .infinite negative
  | .nan .. => .nowhere

namespace Number

def measure : Number → Measure
  | .int n => .exact ⟨n, 0⟩
  | .float x => x.measure
  | .decimal d => d.measure
  | .fraction q => .exact ⟨q, 0⟩
  | .unmeasured => .nowhere

def order? (a b : Number) : Option Ordering := a.measure.order? b.measure

def same (a b : Number) : Bool := a.order? b == some .eq

/-- The least magnitude that rounds beyond the greatest double-precision number. -/
def overflowBound : Nat := Nat.pow 2 1024 - Nat.pow 2 970

/-- Whether a number survives as a double-precision number; the large ones of two forms do not. -/
def checkRange : Number → Except Fault Unit
  | .int n => if n.natAbs < overflowBound then .ok () else .error .integerTooLarge
  | .fraction q => if q.num.natAbs < overflowBound * q.den then .ok () else .error .ratioTooLarge
  | _ => .ok ()

/-- Whether a number is not a number; large integers and fractions cannot tell. -/
def isNaN (a : Number) : Except Fault Bool := do
  a.checkRange
  match a with
  | .float x => return x == .nan
  | .decimal d => return d.isNaN
  | _ => return false

/-- Whether a number has a finite value; large integers and fractions cannot tell. -/
def isFinite (a : Number) : Except Fault Bool := do
  a.checkRange
  match a.measure with
  | .exact _ => return true
  | _ => return false

def isZero (a : Number) : Bool := a.same (.int 0)

def toInteger : Number → Except Fault Int
  | .int n => .ok n
  | .float x =>
    match x.measure with
    | .exact value => .ok value.truncate
    | .infinite _ => .error (.infinityToInteger false)
    | .nowhere => .error (.nanToInteger false)
  | .decimal d =>
    match d.measure with
    | .exact value => .ok value.truncate
    | .infinite _ => .error (.infinityToInteger true)
    | .nowhere => .error (.nanToInteger true)
  | .fraction q => .ok (q.num.tdiv q.den)
  | .unmeasured => .error .wrongType

def toFloat : Number → Except Fault BinaryFloat
  | .int n => if n.natAbs < overflowBound then .ok (.ofRat n) else .error .integerTooLarge
  | .float x => .ok x
  | .decimal (.finite negative coefficient exponent) => .ok (.ofDecimal negative coefficient exponent)
  | .decimal (.infinite negative) => .ok (.infinite negative)
  | .decimal (.nan _ signaling _) => if signaling then .error (.failure "") else .ok .nan
  | .fraction q => if q.num.natAbs < overflowBound * q.den then .ok (.ofRat q) else .error .ratioTooLarge
  | .unmeasured => .error .wrongType

end Number

end Criteria
