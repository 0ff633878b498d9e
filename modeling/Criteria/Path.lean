import Criteria.Value.Conversion

set_option autoImplicit false
set_option relaxedAutoImplicit false

/-!
# Paths

A path is a text of segments separated by dots. A segment selects a key of a mapping, an index of a
sequence, an item of a sequence that is that very text, or a public attribute of an object. The empty
path is the value itself, and whatever is not there is undefined.
-/

namespace Criteria

namespace Path

def segmentsFrom (current : List Char) : List Char → List String
  | [] => [String.ofList current.reverse]
  | c :: rest =>
    if c == '.' then String.ofList current.reverse :: segmentsFrom [] rest
    else segmentsFrom (c :: current) rest

def segments (path : String) : List String := segmentsFrom [] path.toList

def isIndex (segment : String) : Bool :=
  !segment.toList.isEmpty && segment.toList.all Char.isDigit

/-- The index that a segment writes; too many digits are a fault. -/
def index (segment : String) : Except Fault Nat :=
  let digits := segment.toList
  if digits.length > digitLimit then .error (.tooManyDigits digits.length)
  else .ok (Decimal.digitsValue digits)

def readAttribute (attributes : List (String × Value)) (broken : List String) (name : String) :
    Except Fault Value :=
  if name.toList.head? == some '_' then .ok .undefined
  else if broken.contains name then .error (.brokenAttribute name)
  else .ok ((attributes.lookup name).getD .undefined)

def complexAttributes (re im : BinaryFloat) : List (String × Value) :=
  [("real", .number (.float re)), ("imag", .number (.float im)), ("conjugate", .function .conjugate)]

/-- The item that a segment names: itself, if it is there. -/
def itemNamed (items : List Value) (segment : String) : Value :=
  if items.any (fun item => item.text? == some segment) then .text segment else .undefined

/-- What one segment selects from a value. -/
def step (v : Value) (segment : String) : Except Fault Value :=
  match v.untie with
  | .mapping _ entries => .ok ((Value.lookup segment entries).getD .undefined)
  | .array _ items =>
    if isIndex segment then do
      match items[← index segment]? with
      | some v => return v
      | none => return itemNamed items segment
    else .ok (itemNamed items segment)
  | .object attributes broken => readAttribute attributes broken segment
  | .complex re im => readAttribute (complexAttributes re im) [] segment
  | _ => .ok .undefined

/-- Follow segments until one selects nothing. -/
def walk : Value → List String → Except Fault Value
  | v, [] => .ok v
  | v, segment :: rest => do
    let next ← step v segment
    if next.isUndefined then return .undefined else walk next rest

/-- What a path selects from a value; only a text is a path. -/
def select (v path : Value) : Except Fault Value :=
  match path with
  | .text "" => .ok v
  | .text path => walk v (segments path)
  | _ => .ok .undefined

def resolve (v path : Value) (fallback : Option Value) : Except Fault Value := do
  let found ← select v path
  match found, fallback with
  | .undefined, some data => select data path
  | found, _ => return found

def isPresent (v path : Value) (fallback : Option Value) : Except Fault Bool := do
  return !(← resolve v path fallback).isUndefined

end Path

end Criteria
