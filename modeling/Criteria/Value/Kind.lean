import Criteria.Value.Basic

set_option autoImplicit false
set_option relaxedAutoImplicit false

/-!
# Kinds of values

Every value has exactly one kind. Numbers of all forms are of one kind, complex ones are objects, and
a Boolean is no number.
-/

namespace Criteria

inductive Kind
  | undefined
  | null
  | boolean
  | number
  | string
  | array
  | arrayLike
  | map
  | set
  | plainObject
  | function
  | regExp
  | date
  | error
  | object
  deriving DecidableEq, Repr

namespace Kind

def name : Kind → String
  | .undefined => "undefined"
  | .null => "null"
  | .boolean => "boolean"
  | .number => "number"
  | .string => "string"
  | .array => "array"
  | .arrayLike => "array_like"
  | .map => "map"
  | .set => "set"
  | .plainObject => "plain_object"
  | .function => "function"
  | .regExp => "regexp"
  | .date => "date"
  | .error => "error"
  | .object => "object"

def isPrimitive : Kind → Bool
  | .undefined | .null | .boolean | .number | .string => true
  | _ => false

def isOrderable : Kind → Bool
  | .number | .string | .date => true
  | _ => false

end Kind

def Value.kind (v : Value) : Kind :=
  match v.untie with
  | .undefined => .undefined
  | .null => .null
  | .bool _ => .boolean
  | .number _ => .number
  | .text _ => .string
  | .array .. => .array
  | .mapping .plain _ => .plainObject
  | .mapping _ _ => .map
  | .set .. => .set
  | .pattern _ => .regExp
  | .date _ => .date
  | .dateTime _ => .date
  | .error .. => .error
  | .function _ => .function
  | .bytes _ => .arrayLike
  | .sized _ => .arrayLike
  | .object .. => .object
  | .complex .. => .object
  | .knot .. => .object
  | .link _ => .object

end Criteria
