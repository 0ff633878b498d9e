import Criteria.Number.BinaryFloat

set_option autoImplicit false
set_option relaxedAutoImplicit false

/-!
# Decimal floating-point numbers

A finite decimal is a signed coefficient and a power of ten; trailing zeros are part of it. The text
is the scientific string of the general decimal arithmetic, and `ofText?` reads it back.
-/

namespace Criteria

/-- A decimal number: finite, infinite, or not a number with its payload. -/
inductive Decimal
  | finite (negative : Bool) (coefficient : Nat) (exponent : Int)
  | infinite (negative : Bool)
  | nan (negative signaling : Bool) (payload : Nat)
  deriving DecidableEq, Repr

namespace Decimal

def isNaN : Decimal → Bool
  | .nan .. => true
  | _ => false

def isSignaling : Decimal → Bool
  | .nan _ signaling _ => signaling
  | _ => false

private def signText (negative : Bool) : String := if negative then "-" else ""

def layOut (coefficient : Nat) (exponent : Int) : String :=
  let digits := Nat.toDigits 10 coefficient
  let count : Int := digits.length
  let leading := exponent + count
  let point := if exponent ≤ 0 && leading > -6 then leading else 1
  let body :=
    if point ≤ 0 then "0." ++ String.ofList (List.replicate (-point).toNat '0' ++ digits)
    else if point ≥ count then String.ofList (digits ++ List.replicate (point - count).toNat '0')
    else String.ofList (digits.take point.toNat ++ '.' :: digits.drop point.toNat)
  let shift := leading - point
  if shift == 0 then body
  else body ++ (if shift < 0 then "E-" else "E+") ++ toString shift.natAbs

def text : Decimal → String
  | .finite negative coefficient exponent => signText negative ++ layOut coefficient exponent
  | .infinite negative => signText negative ++ "Infinity"
  | .nan negative signaling payload =>
    signText negative ++ (if signaling then "sNaN" else "NaN")
      ++ (if payload == 0 then "" else toString payload)

def digitsValue (digits : List Char) : Nat :=
  digits.foldl (fun n c => n * 10 + (c.toNat - 48)) 0

/-- An exponent: an optional sign and at least one digit. -/
def readExponent? : List Char → Option Int
  | '+' :: digits => if digits.all Char.isDigit && !digits.isEmpty then some (digitsValue digits) else none
  | '-' :: digits =>
    if digits.all Char.isDigit && !digits.isEmpty then some (-(digitsValue digits : Int)) else none
  | digits => if digits.all Char.isDigit && !digits.isEmpty then some (digitsValue digits) else none

/-- An unsigned decimal literal: digits with an optional point and an optional exponent. -/
def readMagnitude? (text : List Char) : Option (Nat × Int) := do
  let whole := text.takeWhile Char.isDigit
  let rest := text.dropWhile Char.isDigit
  let (fraction, rest) :=
    match rest with
    | '.' :: rest => (rest.takeWhile Char.isDigit, rest.dropWhile Char.isDigit)
    | rest => ([], rest)
  if whole.isEmpty && fraction.isEmpty then none
  else
    let shift ← match rest with
      | [] => some 0
      | c :: rest => if c == 'e' || c == 'E' then readExponent? rest else none
    some (digitsValue (whole ++ fraction), shift - fraction.length)

def ofText? (text : String) : Option Decimal :=
  let (negative, body) :=
    match text.toList with
    | '-' :: rest => (true, rest)
    | '+' :: rest => (false, rest)
    | rest => (false, rest)
  let payload? (rest : List Char) : Option Nat :=
    if rest.all Char.isDigit then some (digitsValue rest) else none
  match body.map Char.toLower with
  | ['i', 'n', 'f'] | ['i', 'n', 'f', 'i', 'n', 'i', 't', 'y'] => some (.infinite negative)
  | 'n' :: 'a' :: 'n' :: rest => (payload? rest).map (.nan negative false)
  | 's' :: 'n' :: 'a' :: 'n' :: rest => (payload? rest).map (.nan negative true)
  | _ => (readMagnitude? body).map fun (coefficient, exponent) => .finite negative coefficient exponent

end Decimal

/-- Read a double-precision number from decimal text, rounding to the nearest. -/
def BinaryFloat.ofText? (text : String) : Option BinaryFloat :=
  match Decimal.ofText? text with
  | some (.finite negative coefficient exponent) => some (.ofDecimal negative coefficient exponent)
  | some (.infinite negative) => some (.infinite negative)
  | some (.nan _ false 0) => some .nan
  | _ => none

end Criteria
