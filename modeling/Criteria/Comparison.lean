import Criteria.Pattern.Matching
import Criteria.Value.StrictEquality
import Criteria.Value.Ordering

set_option autoImplicit false
set_option relaxedAutoImplicit false

/-!
# Comparisons

A comparison sets a value against an argument. Values of different kinds are unequal and have no
order, and a value or an argument that does not suit a comparison makes it false, not a fault.
-/

namespace Criteria

inductive Comparison
  | equal
  | notEqual
  | greater
  | greaterOrEqual
  | less
  | lessOrEqual
  | startsWith
  | endsWith
  | matches
  deriving DecidableEq, Repr

namespace Comparison

def all : List Comparison :=
  [.equal, .notEqual, .greater, .greaterOrEqual, .less, .lessOrEqual, .startsWith, .endsWith,
    .matches]

def name : Comparison → String
  | .equal => "eq"
  | .notEqual => "neq"
  | .greater => "gt"
  | .greaterOrEqual => "gte"
  | .less => "lt"
  | .lessOrEqual => "lte"
  | .startsWith => "startsWith"
  | .endsWith => "endsWith"
  | .matches => "matches"

def ofName? (name : String) : Option Comparison := all.find? fun c => c.name == name

def ordered (allowed : Ordering → Bool) (v argument : Value) : Bool :=
  v.kind == argument.kind && v.kind.isOrderable && (v.order? argument).any allowed

/-- The texts that an argument offers: itself, or the items of a sequence of texts. -/
def affixes? (argument : Value) : Option (List String) :=
  match argument.text?, argument.items? with
  | some s, _ => some [s]
  | none, some items => items.mapM Value.text?
  | none, none => none

def hasAffix (stands : List Char → List Char → Bool) (v argument : Value) : Bool :=
  match v.text?, affixes? argument with
  | some s, some affixes => affixes.any fun affix => stands affix.toList s.toList
  | _, _ => false

def isFound (v argument : Value) : Except Fault Bool :=
  match v, argument with
  | .text s, .pattern p => p.search s
  | .text s, .text source => Pattern.searchText source s
  | _, _ => .ok false

def holds (c : Comparison) (v argument : Value) : Except Fault Bool :=
  match c with
  | .equal => v.strictEquals argument
  | .notEqual => do return !(← v.strictEquals argument)
  | .greater => .ok (ordered (· == .gt) v argument)
  | .greaterOrEqual => .ok (ordered (· != .lt) v argument)
  | .less => .ok (ordered (· == .lt) v argument)
  | .lessOrEqual => .ok (ordered (· != .gt) v argument)
  | .startsWith => .ok (hasAffix List.isPrefixOf v argument)
  | .endsWith => .ok (hasAffix List.isSuffixOf v argument)
  | .matches => isFound v argument

end Comparison

end Criteria
