import Criteria.Rule.Evaluation
import Criteria.Value.Conversion

set_option autoImplicit false
set_option relaxedAutoImplicit false

/-!
# A catalog of predicates

Predicates that are known by name: simple tests, tests that look at the options or at how they are
called, some that fail in every way a predicate can, and the conversions between values, where the
truth of what is converted is the verdict.
-/

namespace Criteria

namespace Catalog

def test (verdict : Value → Except Fault Bool) : Predicate where
  arity := some 1
  call
    | [.value v] => { verdict := verdict v }
    | _ => { verdict := .error .wrongType }

def optionTest (verdict : Value → Options → Except Fault Bool) : Predicate where
  arity := some 3
  call
    | [.value v, .nothing, .options o] => { verdict := verdict v o }
    | _ => { verdict := .error .wrongType }

def always (verdict : Bool) : Predicate where
  arity := some 0
  call _ := { verdict := .ok verdict }

def wantsAll : Predicate where
  arity := none
  call arguments := { verdict := .ok (arguments.length == 3) }

/-- The predicate of one more argument than there are; the last may have a default. -/
def overlong (hasDefault : Bool) : Predicate where
  arity := some 4
  call _ := { verdict := if hasDefault then .ok true else .error .wrongType }

def isOfAge (v : Value) (o : Options) : Except Fault Bool :=
  match o.data with
  | none => .error .wrongType
  | some entries =>
    match entries.lookup "minimumAge" with
    | none => .error (.missingKey "'minimumAge'")
    | some least => Value.precedes true least v

def isDataKey (v : Value) (o : Options) : Except Fault Bool :=
  match o.data with
  | none => .ok false
  | some entries =>
    if v.isHashable then .ok (entries.any fun e => v.text? == some e.1) else .error .wrongType

/-- The predicate of a rule within a predicate: the value has to be a text, and one rule is unknown. -/
def nested : Predicate where
  arity := some 3
  call
    | [.value v, .nothing, .options o] =>
      let rules := Value.plain [(.text "type", .text "string"), (.text "bogus", .int 1)]
      let run := evaluate (fun _ => test fun _ => .error .wrongType) o v rules
      { lines := run.log o, verdict := run.verdict }
    | _ => { verdict := .error .wrongType }

def custom : List (String × Predicate) := [
  ("is_falsy", test Value.isFalsy),
  ("is_truthy", test Value.isTruthy),
  ("yes0", always true),
  ("no0", always false),
  ("kwargs", always true),
  ("gt3", test fun v => Value.precedes false (.int 3) v),
  ("truth", test fun v => .ok v.truth),
  ("is_matt", optionTest fun v _ => .ok (v.same (.text "Matt Scheurich"))),
  ("two", { arity := some 2, call := fun arguments => { verdict := .ok (arguments.length == 2) } }),
  ("strict_opt", optionTest fun _ o => .ok o.strict),
  ("depth_opt", optionTest fun _ o => .ok (o.maxDepth > 10)),
  ("min_age", optionTest isOfAge),
  ("has_data", optionTest isDataKey),
  ("varargs", wantsAll),
  ("mixed", wantsAll),
  ("four", overlong false),
  ("four_default", overlong true),
  ("kwonly", test fun _ => .ok true),
  ("kwreq", test fun _ => .error .wrongType),
  ("empty_list", test fun _ => .ok false),
  ("text", test fun _ => .ok true),
  ("undefined", test fun _ => .ok false),
  ("nan", test fun _ => .ok true),
  ("bad_bool", test fun _ => .error .noTruthValue),
  ("is_undefined", test fun v => .ok v.isUndefined),
  ("nested", nested),
  ("boom_runtime", test fun _ => .error (.crash "boom")),
  ("boom_value", test fun _ => .error (.failure "boom")),
  ("boom_key", test fun _ => .error (.missingKey "'k'"))]

def isCallable : Value → Bool
  | .function _ => true
  | _ => false

def builtin : List (String × Predicate) := [
  ("len", test fun v => return (← v.toLength) != 0),
  ("callable", test fun v => .ok (isCallable v)),
  ("bool", test fun v => .ok v.truth),
  ("int", test fun v => return (← v.toInteger) != 0),
  ("str", test fun v => return (← v.toText) != ""),
  ("list", test fun v => return !(← v.toItems).isEmpty),
  ("dict", test fun v => return !(← v.toEntries).isEmpty),
  ("set", test fun v => return !(← v.toMembers).isEmpty),
  ("isinstance", { arity := some 2, call := fun _ => { verdict := .error .wrongType } }),
  ("object", always true),
  ("date", test fun _ => .error .wrongType)]

/-- The predicates by their names; what is not in the catalog cannot be called. -/
def table : PredicateTable
  | .custom name => (custom.lookup name).getD (test fun _ => .error .wrongType)
  | .builtin name => (builtin.lookup name).getD (test fun _ => .error .wrongType)

end Catalog

end Criteria
