import Criteria.Value.Kind

set_option autoImplicit false
set_option relaxedAutoImplicit false

/-!
# Equality of values

`Value.same` is equality as it holds inside containers: numbers of all forms go by their exact value,
a Boolean counts as 0 or 1, sequences of different form differ, mappings and sets go by inclusion both
ways, and the order of keys counts between two ordered mappings. The two values are taken to be built apart
from each other, so that no part of one is a part of the other: what has only an identity, and what is not a
number, then equals nothing on the other side. A container that holds itself is never found equal; whether it
is found to differ is for `Value.endless` to say.
-/

namespace Criteria

def boolNumber (b : Bool) : Number := .int (if b then 1 else 0)

def complexSame (re im : BinaryFloat) (n : Number) : Bool := im.isZero && (Number.float re).same n

namespace Value

mutual

def same : Value → Value → Bool
  | .undefined, .undefined => true
  | .null, .null => true
  | .bool a, .bool b => a == b
  | .bool a, .number n => (boolNumber a).same n
  | .bool a, .complex re im => complexSame re im (boolNumber a)
  | .number n, .bool b => n.same (boolNumber b)
  | .number n, .number m => n.same m
  | .number n, .complex re im => complexSame re im n
  | .complex re im, .bool b => complexSame re im (boolNumber b)
  | .complex re im, .number n => complexSame re im n
  | .complex re im, .complex re' im' =>
    (Number.float re).same (.float re') && (Number.float im).same (.float im')
  | .text s, .text t => s == t
  | .bytes a, .bytes b => a == b
  | .pattern p, .pattern q => p == q
  | .date a, .date b => a == b
  | .dateTime a, .dateTime b => a.same b
  | .function f, .function g => f == g && f.isShared
  | .array form items, .array form' items' => form == form' && sameItems items items'
  | .set _ items, .set _ items' =>
    items.length == items'.length && included items items' && items'.all (memberOf items)
  | .mapping form entries, .mapping form' entries' =>
    entries.length == entries'.length && entriesIncluded entries entries'
      && entries'.all (fun e => entryOf entries e.1 e.2)
      && (form != .ordered || form' != .ordered || keysAligned entries entries')
  | _, _ => false

def sameItems : List Value → List Value → Bool
  | [], [] => true
  | a :: rest, b :: rest' => same a b && sameItems rest rest'
  | _, _ => false

/-- Whether every item of the first list equals one of the second. -/
def included : List Value → List Value → Bool
  | [], _ => true
  | a :: rest, items => items.any (same a) && included rest items

def memberOf : List Value → Value → Bool
  | [], _ => false
  | a :: rest, b => same a b || memberOf rest b

/-- Whether every entry of the first mapping equals one of the second, key and value. -/
def entriesIncluded : List (Value × Value) → List (Value × Value) → Bool
  | [], _ => true
  | (k, v) :: rest, entries =>
    entries.any (fun e => same k e.1 && same v e.2) && entriesIncluded rest entries

def entryOf : List (Value × Value) → Value → Value → Bool
  | [], _, _ => false
  | (k, v) :: rest, key, value => (same k key && same v value) || entryOf rest key value

def keysAligned : List (Value × Value) → List (Value × Value) → Bool
  | [], [] => true
  | (k, _) :: rest, (k', _) :: rest' => same k k' && keysAligned rest rest'
  | _, _ => false

end

/-- Whether a value is not a number; large integers and fractions cannot tell. -/
def isNaN : Value → Except Fault Bool
  | .number n => n.isNaN
  | _ => .ok false

/-- Whether a value is a number of finite value; large integers and fractions cannot tell. -/
def isFinite : Value → Except Fault Bool
  | .number n => n.isFinite
  | _ => .ok false

/-- Enter a key and its value: a key like it keeps its place and takes the new value. -/
def enterBy (alike : Value → Value → Bool) (entries : List (Value × Value)) (key value : Value) :
    List (Value × Value) :=
  match entries with
  | [] => [(key, value)]
  | (k, v) :: rest => if alike k key then (k, value) :: rest else (k, v) :: enterBy alike rest key value

def enter : List (Value × Value) → Value → Value → List (Value × Value) := enterBy same

def enterAll (entries : List (Value × Value)) : List (Value × Value) :=
  entries.foldl (fun kept e => enter kept e.1 e.2) []

def distinct (items : List Value) : List Value :=
  items.foldl (fun kept item => if kept.any (same · item) then kept else kept ++ [item]) []

end Value

end Criteria
