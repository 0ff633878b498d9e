import Criteria.Number.BinaryFloat

set_option autoImplicit false
set_option relaxedAutoImplicit false

/-!
# The shortest decimal text of a double-precision number

The digits are the fewest that read back to the same number; among equally few, the nearest to it.
A `FloatStyle` then decides between positional and exponent notation.
-/

namespace Criteria

namespace BinaryFloat

/-- An exact positive quotient together with the ends of the interval that rounds to it. -/
structure RoundingInterval where
  value : Nat
  low : Nat
  high : Nat
  denominator : Nat
  closed : Bool

/-- The reals that round to `significand · 2 ^ exponent`; a power of two has the nearer lower neighbour. -/
def roundingInterval (significand : Nat) (exponent : Int) : RoundingInterval :=
  let unit := if 0 ≤ exponent then Nat.pow 2 exponent.toNat else 1
  let denominator := if 0 ≤ exponent then 4 else 4 * Nat.pow 2 (-exponent).toNat
  let value := 4 * significand * unit
  let below := if significand == Nat.pow 2 (precision - 1) && exponent > leastExponent then 1 else 2
  { value, low := value - below * unit, high := value + 2 * unit, denominator,
    closed := significand % 2 == 0 }

def leadingExponent (n d : Nat) : Int :=
  if n ≥ d then (digitCount (n / d) : Int) - 1
  else
    let places := digitCount (d / n) - 1
    if n * Nat.pow 10 places ≥ d then -(places : Int) else -((places : Int) + 1)

/-- Whether `coefficient · 10 ^ exponent` rounds to the number of the interval. -/
def RoundingInterval.contains (r : RoundingInterval) (coefficient : Nat) (exponent : Int) : Bool :=
  let (point, unit) :=
    if 0 ≤ exponent then (coefficient * Nat.pow 10 exponent.toNat * r.denominator, 1)
    else (coefficient * r.denominator, Nat.pow 10 (-exponent).toNat)
  if r.closed then r.low * unit ≤ point && point ≤ r.high * unit
  else r.low * unit < point && point < r.high * unit

/-- On the grid of multiples of `10 ^ exponent`, the neighbour of the value that reads back, if any. -/
def RoundingInterval.onGrid (r : RoundingInterval) (exponent : Int) : Option Nat :=
  let (num, den) :=
    if 0 ≤ exponent then (r.value, r.denominator * Nat.pow 10 exponent.toNat)
    else (r.value * Nat.pow 10 (-exponent).toNat, r.denominator)
  let below := num / den
  match r.contains below exponent && below > 0, r.contains (below + 1) exponent with
  | true, true => some (roundHalfEven num den)
  | true, false => some below
  | false, true => some (below + 1)
  | false, false => none

def RoundingInterval.search (r : RoundingInterval) : Nat → Int → Nat × Int
  | 0, exponent => (r.value * Nat.pow 10 (-exponent).toNat / r.denominator, exponent)
  | steps + 1, exponent =>
    match r.onGrid exponent with
    | some coefficient => (coefficient, exponent)
    | none => r.search steps (exponent - 1)

/-- The shortest decimal `coefficient · 10 ^ exponent` of a positive finite number. -/
def shortest (significand : Nat) (exponent : Int) : Nat × Int :=
  let r := roundingInterval significand exponent
  r.search 17 (leadingExponent r.value r.denominator)

/-- How digits are set out: where positional notation ends and whether a whole number keeps its point. -/
structure FloatStyle where
  leastPositional : Int
  leastExponential : Int
  keepPoint : Bool

/-- Numbers are positional from `1e-4` up to below `1e16`, and whole ones end in `.0`. -/
def plainStyle : FloatStyle := ⟨-4, 16, true⟩

/-- As `plainStyle`, with no `.0`. -/
def partStyle : FloatStyle := ⟨-4, 16, false⟩

def exponentText (exponent : Int) : String :=
  let digits := toString exponent.natAbs
  (if exponent < 0 then "e-" else "e+") ++ (if digits.length < 2 then "0" ++ digits else digits)

def FloatStyle.layOut (style : FloatStyle) (digits : List Char) (leading : Int) : String :=
  if leading < style.leastPositional || leading ≥ style.leastExponential then
    match digits with
    | [] => ""
    | [d] => String.ofList [d] ++ exponentText leading
    | d :: rest => String.ofList (d :: '.' :: rest) ++ exponentText leading
  else if leading < 0 then
    "0." ++ String.ofList (List.replicate (-leading - 1).toNat '0' ++ digits)
  else
    let whole := leading.toNat + 1
    if digits.length ≤ whole then
      String.ofList (digits ++ List.replicate (whole - digits.length) '0')
        ++ (if style.keepPoint then ".0" else "")
    else String.ofList (digits.take whole ++ '.' :: digits.drop whole)

/-- Drop the zeros at the end of a digit sequence, but keep one digit. -/
def trimZeros (digits : List Char) : List Char :=
  match (digits.reverse.dropWhile (· == '0')).reverse with
  | [] => ['0']
  | kept => kept

def FloatStyle.magnitude (style : FloatStyle) : BinaryFloat → String
  | .nan => "nan"
  | .infinite _ => "inf"
  | .finite _ significand exponent =>
    if significand == 0 then style.layOut ['0'] 0
    else
      let (coefficient, scale) := shortest significand exponent
      let digits := Nat.toDigits 10 coefficient
      style.layOut (trimZeros digits) (scale + digits.length - 1)

def FloatStyle.text (style : FloatStyle) (x : BinaryFloat) : String :=
  (if x.isNegative then "-" else "") ++ style.magnitude x

/-- As `text`, with a plus sign where the sign is not set. -/
def FloatStyle.signedText (style : FloatStyle) (x : BinaryFloat) : String :=
  (if x.isNegative then "-" else "+") ++ style.magnitude x

end BinaryFloat

end Criteria
