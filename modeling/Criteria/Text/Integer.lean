import Criteria.Fault
import Criteria.Text.Blank
import Criteria.Text.Digit
import Criteria.Text.Quoted

set_option autoImplicit false
set_option relaxedAutoImplicit false

/-!
# Reading integers from text

An integer text may have blanks around it, a sign, a base mark, and single low lines between digits;
the digits may be of any script. In a base that is no power of two the count of digits is limited.
-/

namespace Criteria.Text

def placeValue? (c : Char) : Option Nat :=
  if 'a' ≤ c && c ≤ 'z' then some (c.toNat - 87)
  else if 'A' ≤ c && c ≤ 'Z' then some (c.toNat - 55)
  else digitValue? c

def digitOf? (base : Nat) (c : Char) : Option Nat :=
  match placeValue? c with
  | some value => if value < base then some value else none
  | none => none

/-- The leading run of digits, low lines standing singly between them: value, count and rest. -/
def readDigitRun (base : Nat) (value count : Nat) (afterLine : Bool) :
    List Char → Option (Nat × Nat × List Char)
  | [] => if afterLine then none else some (value, count, [])
  | c :: rest =>
    if c == '_' then if afterLine then none else readDigitRun base value count true rest
    else
      match digitOf? base c with
      | some digit => readDigitRun base (value * base + digit) (count + 1) false rest
      | none => if afterLine then none else some (value, count, c :: rest)

/-- Whether the count of digits is limited in a base. -/
def isLimited (base : Nat) : Bool := !(base == 2 || base == 8 || base == 16 || base == 4 || base == 32)

/-- The letter that marks a base after a zero. -/
def baseMark? (base : Nat) : Option Char :=
  if base == 2 then some 'b' else if base == 8 then some 'o' else if base == 16 then some 'x' else none

/-- Drop the mark of a base and one low line after it, where a digit follows. -/
def dropBaseMark (base : Nat) (text : List Char) : List Char :=
  match baseMark? base, text with
  | some mark, '0' :: c :: rest =>
    if c.toLower == mark then
      match rest with
      | '_' :: rest => rest
      | rest => rest
    else text
  | _, text => text

/-- Read an integer text in a base; `shown` is its quoted form for the fault. -/
def readInteger (base : Nat) (shown : String) (text : List Char) : Except Fault Int :=
  let refused : Except Fault Int := .error (.integerText base shown)
  let body := trimSpaces text
  let (negative, body) :=
    match body with
    | '-' :: rest => (true, rest)
    | '+' :: rest => (false, rest)
    | body => (false, body)
  let body := dropBaseMark base body
  match body with
  | [] => refused
  | '_' :: _ => refused
  | _ =>
    match readDigitRun base 0 0 false body with
    | none => refused
    | some (value, count, rest) =>
      if isLimited base && count > digitLimit then .error (.tooManyDigits count)
      else if count == 0 || !rest.isEmpty then refused
      else .ok (if negative then -(value : Int) else value)

def integerOf (base : Nat) (text : String) : Except Fault Int :=
  readInteger base (clipped 200 (quoted text)) text.toList

def integerOfBytes (bytes : List UInt8) : Except Fault Int :=
  readInteger 10 (clipped 200 (quotedBytes (bytes.take 200)))
    (bytes.map fun b => if b < 0x80 then Char.ofNat b.toNat else '\\')

end Criteria.Text
