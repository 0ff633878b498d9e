import Criteria.Text.Printable

set_option autoImplicit false
set_option relaxedAutoImplicit false

/-!
# Quoted text

A text is quoted in single quotes, or in double quotes when it holds single quotes and no double
ones. Backslashes, the quote itself and characters that are not printable are escaped. Bytes are
quoted alike, with everything outside ASCII escaped.
-/

namespace Criteria.Text

def singleQuote : Char := '\x27'

def doubleQuote : Char := '\x22'

def hexDigits (width n : Nat) : List Char :=
  let digits := Nat.toDigits 16 n
  List.replicate (width - digits.length) '0' ++ digits

def enclosingQuote (points : List Nat) : Char :=
  if points.contains 39 && !points.contains 34 then doubleQuote else singleQuote

/-- The escape of a code point by its number: two, four or eight digits. -/
def numericEscape (point : Nat) : List Char :=
  if point ≤ 0xff then '\\' :: 'x' :: hexDigits 2 point
  else if point ≤ 0xffff then '\\' :: 'u' :: hexDigits 4 point
  else '\\' :: 'U' :: hexDigits 8 point

def escapeChar (quote c : Char) : List Char :=
  if c == quote || c == '\\' then ['\\', c]
  else if c == '\n' then ['\\', 'n']
  else if c == '\r' then ['\\', 'r']
  else if c == '\t' then ['\\', 't']
  else if isPrintable c then [c]
  else numericEscape c.toNat

def quoted (text : String) : String :=
  let chars := text.toList
  let quote := enclosingQuote (chars.map Char.toNat)
  String.ofList (quote :: chars.flatMap (escapeChar quote) ++ [quote])

def escapeByte (quote : Char) (b : UInt8) : List Char :=
  if b < 0x7f then
    if b < 0x20 && b != 9 && b != 10 && b != 13 then numericEscape b.toNat
    else escapeChar quote (Char.ofNat b.toNat)
  else numericEscape b.toNat

def quotedBytes (bytes : List UInt8) : String :=
  let quote := enclosingQuote (bytes.map UInt8.toNat)
  String.ofList ('b' :: quote :: bytes.flatMap (escapeByte quote) ++ [quote])

/-- The first characters of a long text. -/
def clipped (limit : Nat) (text : String) : String := String.ofList (text.toList.take limit)

end Criteria.Text
