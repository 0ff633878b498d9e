import Criteria.Value.Equality

set_option autoImplicit false
set_option relaxedAutoImplicit false

/-!
# Order of values

Numbers go by their exact value, texts by code points, days and times by the calendar. `Value.order?`
is the order between values of one kind; `Value.precedes` is the wider one in which Booleans are
numbers, sequences go item by item and sets by inclusion, and it refuses what has no order.
-/

namespace Criteria

def compareBytes : List UInt8 → List UInt8 → Ordering
  | [], [] => .eq
  | [], _ => .lt
  | _, [] => .gt
  | a :: rest, b :: rest' => (compare a.toNat b.toNat).then (compareBytes rest rest')

/-- Whether an order settles "before", or "before or equal" where equality is allowed. -/
def settles (orEqual : Bool) : Ordering → Bool
  | .lt => true
  | .eq => orEqual
  | .gt => false

namespace Value

def order? : Value → Value → Option Ordering
  | .number a, .number b => a.order? b
  | .text a, .text b => some (compare a b)
  | .date a, .date b => some (a.order b)
  | .dateTime a, .dateTime b => a.order? b
  | _, _ => none

def number? : Value → Option Number
  | .number n => some n
  | .bool b => some (boolNumber b)
  | _ => none

/-- Whether one number comes before another; a decimal refuses what is not a number. -/
def numberPrecedes (orEqual : Bool) (a b : Number) : Except Fault Bool :=
  match a.order? b with
  | some o => .ok (settles orEqual o)
  | none =>
    match a, b with
    | .unmeasured, _ => .error .wrongType
    | _, .unmeasured => .error .wrongType
    | .decimal _, _ => .error .incomparable
    | _, .decimal _ => .error .incomparable
    | _, _ => .ok false

mutual

/-- Whether one value comes before another, or is equal where that is allowed. -/
def precedes (orEqual : Bool) : Value → Value → Except Fault Bool
  | .text a, .text b => .ok (settles orEqual (compare a b))
  | .bytes a, .bytes b => .ok (settles orEqual (compareBytes a b))
  | .date a, .date b => .ok (settles orEqual (a.order b))
  | .dateTime a, .dateTime b =>
    match a.order? b with
    | some o => .ok (settles orEqual o)
    | none => .error .wrongType
  | .array form items, .array form' items' =>
    if form == form' then itemsPrecede orEqual items items' else .error .wrongType
  | .set _ items, .set _ items' =>
    .ok (included items items' && (orEqual || items.length < items'.length))
  | a, b =>
    match a.number?, b.number? with
    | some n, some m => numberPrecedes orEqual n m
    | _, _ => .error .wrongType

/-- The first place where two sequences differ settles their order, else their lengths. -/
def itemsPrecede (orEqual : Bool) : List Value → List Value → Except Fault Bool
  | [], rest => .ok (orEqual || !rest.isEmpty)
  | _ :: _, [] => .ok false
  | a :: rest, b :: rest' =>
    if same a b then itemsPrecede orEqual rest rest' else precedes orEqual a b

end

end Value

end Criteria
