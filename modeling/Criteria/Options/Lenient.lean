import Criteria.Fault
import Criteria.Text.Blank
import Criteria.Text.Integer
import Criteria.Text.Utf8
import Criteria.Value.Basic

set_option autoImplicit false
set_option relaxedAutoImplicit false

/-!
# Lenient settings

A setting that is to be true or false, or a whole number, may be given in other forms: true as `1` or
`"yes"`, a whole number as `5.0` or `"1_000"`. What loses nothing is accepted, and all else is a problem
of a definite kind.
-/

namespace Criteria

namespace Setting

/-- The text that a setting is given as, in characters or in bytes; the bytes may not be a text. -/
def text? : Value → Option (Option String)
  | .text s => some (some s)
  | .bytes b => some (Text.ofUtf8? b)
  | _ => none

def trueWords : List String := ["1", "t", "y", "yes", "on", "true"]

def falseWords : List String := ["0", "f", "n", "no", "off", "false"]

def ofWord (word : String) : Except ProblemKind Bool :=
  let word := String.ofList (word.toList.map Char.toLower)
  if trueWords.contains word then .ok true
  else if falseWords.contains word then .ok false
  else .error .notBooleanText

/-- What an integer says: one is true and zero is false. -/
def ofBit (n : Int) : Except ProblemKind Bool :=
  if n == 1 then .ok true else if n == 0 then .ok false else .error .notBooleanText

/-- The magnitude from which a double-precision number is too large to be taken for an integer. -/
def wordBound : Nat := Nat.pow 2 63

/-- Read a double-precision number as an integer; it must be finite, whole and not too large. -/
def ofFloat (x : BinaryFloat) : Except ProblemKind Int :=
  match x.measure with
  | .exact value =>
    if !value.isInteger then .error .fractionalInteger
    else if value.truncate.natAbs < wordBound then .ok value.truncate
    else .error .integerTextTooLong
  | _ => .error .notFinite

/-- What a number says once it is rounded to double precision. -/
def ofNumber (n : Number) : Except ProblemKind Bool :=
  match n.toFloat with
  | .error _ => .error .notBoolean
  | .ok x =>
    match ofFloat x with
    | .ok n => ofBit n
    | .error _ => .error .notBoolean

def toBool (v : Value) : Except ProblemKind Bool :=
  match v, text? v with
  | .bool b, _ => .ok b
  | .number n, _ => ofNumber n
  | _, some (some word) => ofWord word
  | _, some none => .error .notBooleanText
  | _, none => .error .notBoolean

/-- The digits of a plain integer: no zero before another digit. -/
def isPlainDigits : List Char → Bool
  | [] => false
  | ['0'] => true
  | c :: rest => c != '0' && c.isDigit && rest.all Char.isDigit

/-- Read a plain integer: an optional minus sign and digits. -/
def ofPlain (text : List Char) : Except ProblemKind Int :=
  let (negative, digits) := match text with
    | '-' :: rest => (true, rest)
    | rest => (false, rest)
  if !isPlainDigits digits then .error .notIntegerText
  else if digits.length > digitLimit then .error .integerTextTooLong
  else
    let value := Decimal.digitsValue digits
    .ok (if negative then -(value : Int) else value)

/-- Drop zeros, and low lines among them, up to another digit or to the last zero before a point. -/
def dropZeros (last : Char) : List Char → Option (List Char)
  | [] => some [last]
  | c :: rest =>
    if c == '0' || c == '_' then dropZeros c rest
    else if c.isDigit then some (c :: rest)
    else if c == '.' then some (last :: c :: rest)
    else none

/-- Drop the zeros with which a number begins; it must begin with a digit or a minus sign. -/
def dropLeadingZeros : List Char → Option (List Char)
  | [] => none
  | c :: rest =>
    if c == '0' then dropZeros c rest
    else if c.isDigit || c == '-' then some (c :: rest)
    else none

/-- Drop a point after which there are only zeros. -/
def dropZeroFraction (text : List Char) : List Char :=
  match text.dropWhile (· != '.') with
  | '.' :: rest => if rest.all (· == '0') then text.takeWhile (· != '.') else text
  | _ => text

/-- Whether low lines stand only singly and only within. -/
def hasInnerLines : List Char → Bool
  | [] => true
  | ['_'] => false
  | '_' :: '_' :: _ => false
  | _ :: rest => hasInnerLines rest

def dropLines (text : List Char) : List Char :=
  if text.head? != some '_' && hasInnerLines text then text.filter (· != '_') else text

/-- What remains of an integer text without spaces, plus sign, leading zeros, zero fraction and low lines. -/
def tidied (text : List Char) : Option (List Char) := do
  let text ← match Text.trimSpaces text with
    | '+' :: '-' :: _ => none
    | '+' :: rest => some rest
    | text => some text
  return dropLines (dropZeroFraction (← dropLeadingZeros text))

def ofText (text : List Char) : Except ProblemKind Int :=
  match ofPlain text, tidied text with
  | .error .notIntegerText, some text => ofPlain text
  | result, _ => result

/-- Read a number as an integer; it must be finite and whole. -/
def ofWhole (n : Number) : Except ProblemKind Int :=
  match n, n.measure with
  | .unmeasured, _ => .error .notInteger
  | .float x, _ => ofFloat x
  | _, .exact value => if value.isInteger then .ok value.truncate else .error .fractionalInteger
  | _, _ => .error .notFinite

def toInteger (v : Value) : Except ProblemKind Int :=
  match v, text? v with
  | .bool b, _ => .ok (if b then 1 else 0)
  | .number n, _ => ofWhole n
  | _, some (some text) => ofText text.toList
  | _, some none => .error .notIntegerText
  | _, none => .error .notInteger

end Setting

end Criteria
