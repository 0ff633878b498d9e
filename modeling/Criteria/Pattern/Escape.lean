import Criteria.Pattern.Reader
import Criteria.Text.CharacterName

set_option autoImplicit false
set_option relaxedAutoImplicit false

/-!
# Escapes and sets in patterns

After a backslash a letter stands for a class of characters, for a place or for a single character, which
in a text may also be given by its name in braces, and digits stand for a group or for a code point. Between
brackets escapes are fewer, and a minus sign between two characters is a range.
-/

namespace Criteria.PatternReading

open PatternToken

/-- The character that a letter stands for after a backslash. -/
def control? (c : Char) : Option Nat :=
  if c == 'a' then some 7
  else if c == 'f' then some 12
  else if c == 'n' then some 10
  else if c == 'r' then some 13
  else if c == 't' then some 9
  else if c == 'v' then some 11
  else if c == '\\' then some 92
  else none

/-- The class that a letter stands for after a backslash. -/
def class? (c : Char) : Option SetItem :=
  if c == 'd' then some (.ofClass .digit false)
  else if c == 'D' then some (.ofClass .digit true)
  else if c == 's' then some (.ofClass .space false)
  else if c == 'S' then some (.ofClass .space true)
  else if c == 'w' then some (.ofClass .word false)
  else if c == 'W' then some (.ofClass .word true)
  else none

/-- The condition that a letter stands for after a backslash. -/
def anchor? (c : Char) : Option Anchor :=
  if c == 'A' then some .textStart
  else if c == 'Z' then some .textStop
  else if c == 'b' then some .boundary
  else if c == 'B' then some .notBoundary
  else none

/-- The count of digits that a letter asks for after a backslash; beyond bytes only in a text. -/
def hexCount? (isText : Bool) (c : Char) : Option Nat :=
  if c == 'x' then some 2
  else if isText && c == 'u' then some 4
  else if isText && c == 'U' then some 8
  else none

def hexPoint (count : Nat) : PatternReading Nat := do
  let found ← digits 16 count
  let point := ofDigits 16 found
  if found.length != count || point > 0x10ffff then refuse
  return point

def bytePoint (digits : List Nat) : PatternReading Nat := do
  let point := ofDigits 8 digits
  if point > 255 then refuse
  return point

def namedPoint : PatternReading Nat := do
  expect '\x7b'
  match Text.pointNamed? (← enclosed '\x7d') with
  | some point => return point
  | none => refuse

def setEscape (c : Char) : PatternReading SetItem := do
  let isText := (← get).isText
  if c == 'b' then return .point 8
  if c == 'N' && isText then return .point (← namedPoint)
  match control? c, class? c, hexCount? isText c, digit? 8 (.plain c) with
  | some point, _, _, _ => return .point point
  | _, some item, _, _ => return item
  | _, _, some count, _ => return .point (← hexPoint count)
  | _, _, _, some digit => return .point (← bytePoint (digit :: (← digits 8 2)))
  | _, _, _, _ => if c.isAlphanum then refuse else return .point c.toNat

/-- What a digit other than zero stands for after a backslash: a group, or a code point of three digits. -/
def numberEscape (first : Nat) : PatternReading Piece := do
  match ← digits 10 1 with
  | [] => reference first
  | second :: _ =>
    if first < 8 && second < 8 then
      match ← digits 8 1 with
      | [] => reference (first * 10 + second)
      | third :: _ => return ⟨.thing, .point (← bytePoint [first, second, third])⟩
    else reference (first * 10 + second)

def escape (c : Char) : PatternReading Piece := do
  let isText := (← get).isText
  if c == 'N' && isText then return ⟨.thing, .point (← namedPoint)⟩
  match anchor? c, class? c, control? c, hexCount? isText c with
  | some a, _, _, _ => return ⟨.place, .anchor a⟩
  | _, some item, _, _ => return ⟨.thing, .oneOf false [item]⟩
  | _, _, some point, _ => return ⟨.thing, .point point⟩
  | _, _, _, some count => return ⟨.thing, .point (← hexPoint count)⟩
  | _, _, _, _ =>
    if c == '0' then return ⟨.thing, .point (ofDigits 8 (← digits 8 2))⟩
    else
      match digit? 10 (.plain c) with
      | some digit => numberEscape digit
      | none => if c.isAlpha then refuse else return ⟨.thing, .point c.toNat⟩

def setItem : PatternToken → PatternReading SetItem
  | .plain c => return .point c.toNat
  | .escaped c => setEscape c
  | .dangling => refuse

/-- Read the items of a set up to its closing bracket; a bracket that comes first is an item. -/
def setItems : Nat → List SetItem → PatternReading (List SetItem)
  | 0, _ => refuse
  | fuel + 1, items => do
    let token ← next
    if token == .plain ']' && !items.isEmpty then return items.reverse
    let item ← setItem token
    if ← accept '-' then
      let token ← next
      if token == .plain ']' then return (.point 45 :: item :: items).reverse
      match item, ← setItem token with
      | .point first, .point last =>
        if last < first then refuse
        setItems fuel (.range first last :: items)
      | _, _ => refuse
    else setItems fuel (item :: items)

/-- Read a set after its opening bracket. -/
def set : PatternReading Piece := do
  let negated ← accept '^'
  match ← setItems ((← get).tokens.length + 1) [] with
  | [.point p] =>
    if negated then return ⟨.thing, .oneOf true [.point p]⟩ else return ⟨.thing, .point p⟩
  | items => return ⟨.thing, .oneOf negated items⟩

end Criteria.PatternReading
