set_option autoImplicit false
set_option relaxedAutoImplicit false

/-!
# Double-precision numbers

A `BinaryFloat` is kept as the exact value it stands for: a sign, a significand and a power of two.
Exact quotients are rounded to the nearest such number, a tie going to the even significand.
-/

namespace Criteria

/-- A double-precision number: a signed dyadic value, an infinity, or not a number. -/
inductive BinaryFloat
  | finite (negative : Bool) (significand : Nat) (exponent : Int)
  | infinite (negative : Bool)
  | nan
  deriving DecidableEq, Repr

namespace BinaryFloat

def precision : Nat := 53

def leastExponent : Int := -1074

def greatestExponent : Int := 971

def zero (negative : Bool) : BinaryFloat := .finite negative 0 0

/-- The quotient that divides `n / d` by a power of two, as numerator and denominator. -/
def scaled (n d : Nat) (exponent : Int) : Nat × Nat :=
  if 0 ≤ exponent then (n, d * Nat.pow 2 exponent.toNat) else (n * Nat.pow 2 (-exponent).toNat, d)

/-- A quotient rounded to the nearest natural number, a tie going to the even one. -/
def roundHalfEven (n d : Nat) : Nat :=
  let whole := n / d
  let twice := 2 * (n % d)
  if twice > d || (twice == d && whole % 2 == 1) then whole + 1 else whole

/-- The exponent at which a positive quotient fills the significand, but never below the least. -/
def fittingExponent (n d : Nat) : Int :=
  let guess : Int := (n.log2 : Int) - (d.log2 : Int) - ((precision : Int) - 1)
  let (num, den) := scaled n d guess
  let fitting := if num / den < Nat.pow 2 (precision - 1) then guess - 1 else guess
  max fitting leastExponent

/-- The number nearest to `± n / d`; beyond the greatest finite number lies infinity. -/
def ofQuotient (negative : Bool) (n d : Nat) : BinaryFloat :=
  if n == 0 then zero negative
  else
    let exponent := fittingExponent n d
    let (num, den) := scaled n d exponent
    let significand := roundHalfEven num den
    let (significand, exponent) :=
      if significand == Nat.pow 2 precision then (Nat.pow 2 (precision - 1), exponent + 1)
      else (significand, exponent)
    if exponent > greatestExponent then .infinite negative
    else if significand == 0 then zero negative
    else .finite negative significand exponent

def ofRat (q : Rat) : BinaryFloat := ofQuotient (q.num < 0) q.num.natAbs q.den

def toRat? : BinaryFloat → Option Rat
  | .finite negative significand exponent =>
    let magnitude : Rat :=
      if 0 ≤ exponent then ((significand * Nat.pow 2 exponent.toNat : Nat) : Rat)
      else mkRat significand (Nat.pow 2 (-exponent).toNat)
    some (if negative then -magnitude else magnitude)
  | _ => none

def digitCount (n : Nat) : Nat := (Nat.toDigits 10 n).length

/-- The number nearest to `± coefficient · 10 ^ exponent`; exponents far outside the range need no power. -/
def ofDecimal (negative : Bool) (coefficient : Nat) (exponent : Int) : BinaryFloat :=
  let top := (digitCount coefficient : Int) + exponent
  if coefficient == 0 then zero negative
  else if top > 400 then .infinite negative
  else if top < -400 then zero negative
  else if 0 ≤ exponent then ofQuotient negative (coefficient * Nat.pow 10 exponent.toNat) 1
  else ofQuotient negative coefficient (Nat.pow 10 (-exponent).toNat)

def negate : BinaryFloat → BinaryFloat
  | .finite negative significand exponent => .finite (!negative) significand exponent
  | .infinite negative => .infinite (!negative)
  | .nan => .nan

/-- Whether the sign is set; not a number has none. -/
def isNegative : BinaryFloat → Bool
  | .finite negative _ _ => negative
  | .infinite negative => negative
  | .nan => false

def isZero : BinaryFloat → Bool
  | .finite _ significand _ => significand == 0
  | _ => false

/-- The product of two numbers, rounded once. -/
def mul (a b : BinaryFloat) : BinaryFloat :=
  let negative := a.isNegative != b.isNegative
  match a, b with
  | .nan, _ | _, .nan => .nan
  | .infinite _, b => if b.isZero then .nan else .infinite negative
  | a, .infinite _ => if a.isZero then .nan else .infinite negative
  | .finite _ m p, .finite _ n q =>
    let exponent := p + q
    if 0 ≤ exponent then ofQuotient negative (m * n * Nat.pow 2 exponent.toNat) 1
    else ofQuotient negative (m * n) (Nat.pow 2 (-exponent).toNat)

/-- The sum of two numbers, rounded once; opposite infinities have none. -/
def add (a b : BinaryFloat) : BinaryFloat :=
  match a, b with
  | .nan, _ | _, .nan => .nan
  | .infinite p, .infinite q => if p == q then .infinite p else .nan
  | .infinite p, _ => .infinite p
  | _, .infinite q => .infinite q
  | a, b =>
    match a.toRat?, b.toRat? with
    | some p, some q =>
      if p == 0 && q == 0 then zero (a.isNegative && b.isNegative) else ofRat (p + q)
    | _, _ => .nan

end BinaryFloat

end Criteria
