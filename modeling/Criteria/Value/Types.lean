import Criteria.Value.Equality

set_option autoImplicit false
set_option relaxedAutoImplicit false

/-!
# Named types

A type is a named property of values. Most types go by kind alone; a finite number is an `integer` or
a `float` by its exact value, and a value is `truthy` or `falsy`. Some names have a second spelling.
-/

namespace Criteria

inductive NamedType
  | bool
  | string
  | number
  | integer
  | float
  | array
  | arrayLike
  | map
  | set
  | object
  | objectLike
  | plainObject
  | function
  | regExp
  | date
  | null
  | undefined
  | nil
  | error
  | truthy
  | falsy
  deriving DecidableEq, Repr

namespace NamedType

/-- The spellings of the types; the last ones are second spellings. -/
def spellings : List (String × NamedType) := [
  ("bool", .bool), ("string", .string), ("number", .number), ("integer", .integer),
  ("float", .float), ("array", .array), ("arrayLike", .arrayLike), ("map", .map), ("set", .set),
  ("object", .object), ("objectLike", .objectLike), ("plainObject", .plainObject),
  ("function", .function), ("regExp", .regExp), ("date", .date), ("null", .null),
  ("undefined", .undefined), ("nil", .nil), ("error", .error), ("truthy", .truthy),
  ("falsy", .falsy),
  ("boolean", .bool), ("array_like", .arrayLike), ("object_like", .objectLike),
  ("plain_object", .plainObject), ("regexp", .regExp)]

def ofText? (name : String) : Option NamedType := spellings.lookup name

def names : List String := (spellings.map Prod.fst).mergeSort fun a b => decide (a ≤ b)

end NamedType

namespace Value

/-- Whether a value counts as true: containers always do, zero and what is not a number never. -/
def isTruthy (v : Value) : Except Fault Bool :=
  match v with
  | .undefined | .null => .ok false
  | .bool b => .ok b
  | .number n => do return !(← n.isNaN) && !n.isZero
  | .text s => .ok (s != "")
  | _ => .ok true

/-- Whether a value does not count as true. -/
def isFalsy (v : Value) : Except Fault Bool := do return !(← v.isTruthy)

def isWhole : Value → Bool
  | .number n =>
    match n.measure with
    | .exact value => value.isInteger
    | _ => false
  | _ => false

def hasType (v : Value) : NamedType → Except Fault Bool
  | .bool => .ok (v.kind == .boolean)
  | .string => .ok (v.kind == .string)
  | .number => .ok (v.kind == .number)
  | .integer => do return (← v.isFinite) && v.isWhole
  | .float => do return (← v.isFinite) && !v.isWhole
  | .array => .ok (v.kind == .array)
  | .arrayLike => .ok (v.kind == .array || v.kind == .string || v.kind == .arrayLike)
  | .map => .ok (v.kind == .map)
  | .set => .ok (v.kind == .set)
  | .object => .ok (!v.kind.isPrimitive)
  | .objectLike => .ok (!v.kind.isPrimitive && v.kind != .function)
  | .plainObject => .ok (v.kind == .plainObject)
  | .function => .ok (v.kind == .function)
  | .regExp => .ok (v.kind == .regExp)
  | .date => .ok (v.kind == .date)
  | .null => .ok (v.kind == .null)
  | .undefined => .ok (v.kind == .undefined)
  | .nil => .ok (v.kind == .null || v.kind == .undefined)
  | .error => .ok (v.kind == .error)
  | .truthy => v.isTruthy
  | .falsy => v.isFalsy

def namedType? : Value → Option NamedType
  | .text name => NamedType.ofText? name
  | _ => none

/-- Whether a value has the type that another value names; an unknown name is no type's. -/
def checkType (v name : Value) : Except Fault Bool :=
  match name.namedType? with
  | some type => v.hasType type
  | none => .ok false

end Value

end Criteria
