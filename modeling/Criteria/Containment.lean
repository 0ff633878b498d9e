import Criteria.Value.StrictEquality

set_option autoImplicit false
set_option relaxedAutoImplicit false

/-!
# What a value contains

Seen as a collection, a sequence or a set is its members, nothing is empty, and any other value is its
own only member. Members are found by strict equality.
-/

namespace Criteria

def Kind.isCollection : Kind → Bool
  | .array | .set => true
  | _ => false

namespace Value

def elements (v : Value) : List Value :=
  match v.members?, v with
  | some items, _ => items
  | none, .undefined => []
  | none, .null => []
  | none, v => [v]

def isAmong (items : List Value) (v : Value) : Except Fault Bool :=
  items.anyM fun item => item.strictEquals v

def includesAny (v argument : Value) : Except Fault Bool :=
  argument.elements.anyM (isAmong v.elements)

def includesAll (v argument : Value) : Except Fault Bool :=
  argument.elements.allM (isAmong v.elements)

/-- Whether a value is as expected: it equals or contains what is expected, or some or all of a collection. -/
def meets (v expected : Value) (needsAll : Bool) : Except Fault Bool :=
  if v.isUndefined then .ok false
  else if expected.kind.isCollection then
    if needsAll then v.includesAll expected else v.includesAny expected
  else do
    if ← v.strictEquals expected then return true
    if v.kind.isCollection then isAmong v.elements expected else return false

end Value

end Criteria
