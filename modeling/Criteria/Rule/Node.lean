import Criteria.Comparison

set_option autoImplicit false
set_option relaxedAutoImplicit false

/-!
# Rules as they are written

Where a rule is expected there stands a tree, which maps rule names to arguments, or a predicate, which
is a callable. Anything else is malformed.
-/

namespace Criteria

inductive RuleNode
  | tree (entries : List (Value × Value))
  | predicate (f : FunctionName)
  | malformed (raw : Value)

/-- How the rules of a tree combine: all have to hold, the same with `has` at its strictest, or one has to. -/
inductive Mode
  | default
  | all
  | any
  deriving DecidableEq, Repr

inductive RuleName
  | type
  | has
  | any
  | all
  | negation
  | properties
  | includesAny
  | includesAll
  | comparison (c : Comparison)
  deriving DecidableEq, Repr

namespace RuleNode

def ofValue (v : Value) : RuleNode :=
  match v.entries?, v with
  | some entries, _ => .tree entries
  | none, .function f => .predicate f
  | none, v => .malformed v

end RuleNode

namespace RuleName

def name : RuleName → String
  | .type => "type"
  | .has => "has"
  | .any => "any"
  | .all => "all"
  | .negation => "not"
  | .properties => "match"
  | .includesAny => "includesAny"
  | .includesAll => "includesAll"
  | .comparison c => c.name

def handled : List RuleName :=
  [.type, .has, .any, .all, .negation, .properties, .includesAny, .includesAll]

def ofName? (name : String) : Option RuleName :=
  match handled.find? fun r => r.name == name with
  | some r => some r
  | none => (Comparison.ofName? name).map .comparison

/-- The rule that a key names; only a text is a name. -/
def ofValue? (key : Value) : Option RuleName := key.text?.bind ofName?

end RuleName

end Criteria
