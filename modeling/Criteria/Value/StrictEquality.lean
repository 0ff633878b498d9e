import Criteria.Value.Equality

set_option autoImplicit false
set_option relaxedAutoImplicit false

/-!
# Strict equality

Strict equality holds between equal values of one kind. Containers are compared item by item, up to the first
items that differ, and these are compared in the same way. Where containers hold themselves such a comparison
may come to the same containers again and again; then it has no end and is a fault.
-/

namespace Criteria

def Fault.endless : Fault := .crash "maximum recursion depth exceeded in comparison"

/-- Whether it is the mapping on the right that is gone through. A view is compared as what it shows, and only
once it is known not to be a plain mapping; an ordered mapping goes before a plain one. -/
def MapForm.isSecond : MapForm → MapForm → Bool
  | .plain, .ordered | .plain, .view | .view, .ordered | .view, .view => true
  | _, _ => false

namespace Value

/-- The first items in one place of two sequences that are not found equal. -/
def itemsApart? : List Value → List Value → Option (Value × Value)
  | a :: rest, b :: rest' => if same a b then itemsApart? rest rest' else some (a, b)
  | _, _ => none

/-- What stands under the first key of a mapping under which another has no equal value, if it has the key. -/
def entriesApart? : List (Value × Value) → List (Value × Value) → Option (Value × Value)
  | [], _ => none
  | (k, v) :: rest, entries =>
    if entries.any fun e => same k e.1 && same v e.2 then entriesApart? rest entries
    else (entries.find? fun e => same k e.1).map fun e => (v, e.2)

/-- The next comparison on which that of two containers depends. Lists are not looked into when they are of
different lengths, while tuples are. -/
def apart? (a b : Value) : Option (Value × Value) :=
  match a.untie, b.untie with
  | .array .list items, .array .list items' =>
    if items.length == items'.length then itemsApart? items items' else none
  | .array .tuple items, .array .tuple items' => itemsApart? items items'
  | .mapping form entries, .mapping form' entries' =>
    if entries.length != entries'.length then none
    else if form.isSecond form' then entriesApart? entries' entries
    else entriesApart? entries entries'
  | _, _ => none

def runsOn : Nat → Value → Value → Bool
  | 0, _, _ => true
  | steps + 1, a, b =>
    match apart? a b with
    | some (x, y) => runsOn steps x y
    | none => false

mutual

/-- A value and the values written within it; keys, members of sets and attributes are not among them. -/
def written : Value → List Value
  | .array form items => .array form items :: writtenItems items
  | .mapping form entries => .mapping form entries :: writtenEntries entries
  | .knot nodes root => .knot nodes root :: writtenItems nodes
  | v => [v]

def writtenItems : List Value → List Value
  | [] => []
  | v :: rest => written v ++ writtenItems rest

def writtenEntries : List (Value × Value) → List Value
  | [] => []
  | (_, v) :: rest => written v ++ writtenEntries rest

end

def rerooted (places : List Value) : Value → List Value
  | .knot nodes _ => places.filterMap fun
    | .link index => some (.knot nodes index)
    | _ => none
  | _ => []

/-- What can be come to from a value: what is written within it, and each knot in it with any link as root. -/
def reach (v : Value) : List Value := v.written ++ v.written.flatMap (rerooted v.written)

/-- Whether a comparison has no end. There are only so many pairs to be come to, and a comparison that goes on
for longer comes to one of them twice. -/
def endless (a b : Value) : Bool :=
  let places := (a.reach ++ b.reach).length
  runsOn (places * places) a b

/-- Whether two values are of one kind and equal; what is not a number equals nothing. -/
def strictEquals (a b : Value) : Except Fault Bool :=
  if a.kind != b.kind then .ok false
  else if a.kind == .number then do
    if ← a.isNaN then return false
    if ← b.isNaN then return false
    return same a b
  else if same a b then .ok true
  else if endless a b then .error .endless
  else .ok false

end Value

end Criteria
