import Criteria.Fault
import Criteria.Number.Decimal
import Criteria.Text.Integer

set_option autoImplicit false
set_option relaxedAutoImplicit false

/-!
# A place in a document

A cursor is what is left of a document, with its index, line and column. Lines are ended by line
feeds, carriage returns, the two together, and the line ends of Unicode.
-/

namespace Criteria.Yaml

structure Cursor where
  rest : List Char
  index : Nat := 0
  line : Nat := 0
  column : Nat := 0

abbrev Scan := StateT Cursor (Except Fault)

/-- The mark of byte order, which may begin a document. -/
def byteOrderMark : Char := '\ufeff'

def isBreak (c : Char) : Bool :=
  c == '\n' || c == '\r' || c == '\u0085' || c == '\u2028' || c == '\u2029'

def isAllowed (c : Char) : Bool :=
  let n := c.toNat
  n == 9 || n == 10 || n == 13 || (32 ≤ n && n ≤ 126) || n == 0x85 || (0xa0 ≤ n && n ≤ 0xd7ff)
    || (0xe000 ≤ n && n ≤ 0xfffd) || 0x10000 ≤ n

def endsLine : Option Char → Bool
  | some c => isBreak c
  | none => true

def endsPart (next : Option Char) : Bool := next == some ' ' || endsLine next

def endsWord (next : Option Char) : Bool := next == some '\t' || endsPart next

/-- Whether three dashes or three dots stand alone before the given text goes on. -/
def isDocumentMark (mark : Char) : List Char → Bool
  | a :: b :: c :: rest => a == mark && b == mark && c == mark && endsWord rest.head?
  | _ => false

def isDocumentBound (text : List Char) : Bool := isDocumentMark '-' text || isDocumentMark '.' text

namespace Cursor

def peek (c : Cursor) : Option Char := c.rest.head?

def sees (c : Cursor) (p : Char → Bool) : Bool := c.peek.any p

/-- The cursor after the next character. -/
def step (c : Cursor) : Cursor :=
  match c.rest with
  | [] => c
  | x :: rest =>
    if isBreak x && !(x == '\r' && rest.head? == some '\n') then
      { rest, index := c.index + 1, line := c.line + 1, column := 0 }
    else if x == byteOrderMark then { c with rest, index := c.index + 1 }
    else { c with rest, index := c.index + 1, column := c.column + 1 }

/-- The cursor after some number of characters. -/
def skip : Nat → Cursor → Cursor
  | 0, c => c
  | count + 1, c => skip count c.step

/-- The cursor after all characters with a property. -/
def skipWhile (c : Cursor) (p : Char → Bool) : Cursor := c.skip (c.rest.takeWhile p).length

/-- The text of a line end as it is read, and the cursor after it. -/
def lineBreak (c : Cursor) : List Char × Cursor :=
  match c.rest with
  | '\r' :: '\n' :: _ => (['\n'], c.skip 2)
  | x :: _ =>
    if x == '\u2028' || x == '\u2029' then ([x], c.step)
    else if isBreak x then (['\n'], c.step)
    else ([], c)
  | [] => ([], c)

end Cursor

namespace Scan

def refuse {α : Type} : Scan α := throw (.load .invalidDocument)

def peek : Scan (Option Char) := return (← get).peek

def sees (p : Char → Bool) : Scan Bool := return (← get).sees p

def skip (count : Nat) : Scan Unit := modify (Cursor.skip count)

def takeWhile (p : Char → Bool) : Scan (List Char) := do
  let taken := (← get).rest.takeWhile p
  modify fun c => c.skipWhile p
  return taken

def skipBlanks : Scan Unit := modify fun c => c.skipWhile (· == ' ')

def lineBreak : Scan (List Char) := do
  let (text, after) := (← get).lineBreak
  set after
  return text

/-- Pass over the rest of a line that holds nothing more than a remark. -/
def lineEnd : Scan Unit := do
  skipBlanks
  if ← sees (· == '#') then let _ ← takeWhile fun c => !isBreak c
  unless endsLine (← peek) do refuse
  let _ ← lineBreak

def number : Scan Nat := do
  let digits ← takeWhile Char.isDigit
  if digits.isEmpty then refuse
  if digits.length > digitLimit then throw (.tooManyDigits digits.length)
  return Decimal.digitsValue digits

end Scan

end Criteria.Yaml
