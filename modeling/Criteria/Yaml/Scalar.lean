import Criteria.Number.Basic
import Criteria.Text.Base64
import Criteria.Text.Case
import Criteria.Value.Basic
import Criteria.Yaml.Form

set_option autoImplicit false
set_option relaxedAutoImplicit false

/-!
# Values of scalars

The tag of a scalar says how its text is read. A plain scalar has the form that its tag asks for, but a
tag can also be given to any text, which may then have no value.
-/

namespace Criteria.Yaml

namespace Scalar

def truths : List (String × Bool) :=
  [("yes", true), ("no", false), ("true", true), ("false", false), ("on", true), ("off", false)]

def bool (text : String) : Except Fault Value :=
  let word := Text.lowered text
  match truths.lookup word with
  | some b => .ok (.bool b)
  | none => .error (.missingKey (Text.quoted word))

def withoutLines (text : String) : List Char := text.toList.filter (· != '_')

/-- Whether a number is negative, and its text after the sign; an empty text is no number. -/
def signed : List Char → Except Fault (Bool × List Char)
  | [] => .error .emptyText
  | '-' :: rest => .ok (true, rest)
  | '+' :: rest => .ok (false, rest)
  | text => .ok (false, text)

/-- Read an integer without a sign: a leading zero stands for base eight, `0b` and `0x` for bases two
and sixteen, and colons for base sixty. -/
def magnitude (text : List Char) : Except Fault Int :=
  match text with
  | [] => .error .emptyText
  | ['0'] => .ok 0
  | '0' :: 'b' :: digits => Text.integerOf 2 (String.ofList digits)
  | '0' :: 'x' :: digits => Text.integerOf 16 (String.ofList digits)
  | '0' :: _ => Text.integerOf 8 (String.ofList text)
  | _ =>
    if text.contains ':' then do
      let parts ← ((String.ofList text).splitOn ":").mapM (Text.integerOf 10)
      return parts.foldl (fun total part => total * 60 + part) 0
    else Text.integerOf 10 (String.ofList text)

def integer (text : String) : Except Fault Value := do
  let (negative, rest) ← signed (withoutLines text)
  let n ← magnitude rest
  return .int (if negative then -n else n)

/-- Read a number in base ten; blanks around it and digits of all scripts are allowed. -/
def decimal (text : String) : Except Fault BinaryFloat :=
  match BinaryFloat.ofText? (String.ofList ((Text.trimSpaces text.toList).map Text.asciiDigit)) with
  | some x => .ok x
  | none => .error (.floatText (Text.quoted text))

def sexagesimal (weight : Nat) (total : BinaryFloat) : List BinaryFloat → Except Fault BinaryFloat
  | [] => .ok total
  | place :: rest => do
    let scale ← (Number.int weight).toFloat
    sexagesimal (weight * 60) (total.add (place.mul scale)) rest

def measure (text : String) : Except Fault BinaryFloat :=
  if text == ".inf" then .ok (.infinite false)
  else if text == ".nan" then .ok .nan
  else if text.toList.contains ':' then do
    let places ← (text.splitOn ":").mapM decimal
    sexagesimal 1 (.zero false) places.reverse
  else decimal text

def float (text : String) : Except Fault Value := do
  let (negative, rest) ← signed (withoutLines (Text.lowered text))
  let x ← measure (String.ofList rest)
  return .number (.float (if negative then x.negate else x))

def binary (text : String) : Except Fault Value :=
  match if text.toList.all (·.toNat < 128) then Text.ofBase64? text else none with
  | some bytes => .ok (.bytes bytes)
  | none => .error (.load .invalidDocument)

/-- The form of days and times, with a group for each part: year, month, day, hour, minute, second,
fraction, zone, and the sign, hours and minutes of an offset. -/
def momentForm : Form := .ofPattern (
  "^([0-9][0-9][0-9][0-9])-([0-9][0-9]?)-([0-9][0-9]?)"
    ++ "(?:(?:[Tt]|[ \\t]+)([0-9][0-9]?):([0-9][0-9]):([0-9][0-9])(?:\\.([0-9]*))?"
    ++ "(?:[ \\t]*(Z|([-+])([0-9][0-9]?)(?::([0-9][0-9]))?))?)?$")

def zoneOffset (zone sign : List Char) (hours minutes : Nat) : Except CalendarFault (Option Int) :=
  match sign, zone with
  | [], [] => .ok none
  | [], _ => .ok (some 0)
  | sign, _ =>
    let seconds : Int := (hours * 60 + minutes) * 60
    (DateTime.checkOffset (if sign == ['-'] then -seconds else seconds)).map some

def momentOf (part : Nat → List Char) : Except CalendarFault Value :=
  let number (group : Nat) : Nat := Decimal.digitsValue (part group)
  if (part 4).isEmpty then (Date.make (number 1) (number 2) (number 3)).map .date
  else do
    let offset ← zoneOffset (part 8) (part 9) (number 10) (number 11)
    let day ← Date.make (number 1) (number 2) (number 3)
    let micros := DateTime.readMicros (part 7)
    let time ← DateTime.make day (number 4) (number 5) (number 6) micros offset
    return .dateTime time

def moment (text : String) : Except Fault Value :=
  match momentForm.cover? text with
  | none => .error .missingAttribute
  | some spot =>
    let part (group : Nat) : List Char :=
      match spot.group? group with
      | some (start, stop) => (text.toList.drop start).take (stop - start)
      | none => []
    (momentOf part).mapError .calendar

end Scalar

def Tag.reader? : Tag → Option (String → Except Fault Value)
  | .null => some fun _ => .ok .null
  | .bool => some Scalar.bool
  | .int => some Scalar.integer
  | .float => some Scalar.float
  | .binary => some Scalar.binary
  | .timestamp => some Scalar.moment
  | .text => some fun text => .ok (.text text)
  | _ => none

end Criteria.Yaml
