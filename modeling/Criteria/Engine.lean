import Criteria.Options.Reading
import Criteria.Rule.Evaluation
import Criteria.RuleSet.NamedRule

set_option autoImplicit false
set_option relaxedAutoImplicit false

/-!
# The engine

An engine holds named rules, a match strategy and options, and finds the rules that a value satisfies:
the first one, the first one by descending priority, or all of them. Any value may be set as the
strategy; one that is not known is reported when a value is to be matched.
-/

namespace Criteria

inductive Strategy
  | firstMatch
  | priority
  | allMatch
  deriving DecidableEq, Repr

structure Engine where
  rules : List NamedRule
  strategy : Value := .text "first_match"
  options : Options := {}

structure Outcome where
  problem : Option String
  matched : List Value

namespace Strategy

def name : Strategy → String
  | .firstMatch => "first_match"
  | .priority => "priority"
  | .allMatch => "all_match"

def ofValue? (v : Value) : Option Strategy :=
  match v.text? with
  | some text => [firstMatch, priority, allMatch].find? fun s => s.name == text
  | none => none

end Strategy

namespace Engine

/-- Put a rule into its place among rules of descending priority, before those of equal priority. -/
def insertByPriority (rule : NamedRule) : List NamedRule → Except Fault (List NamedRule)
  | [] => .ok [rule]
  | other :: rest => do
    if ← Value.precedes false rule.priority other.priority then
      return other :: (← insertByPriority rule rest)
    else return rule :: other :: rest

def byPriority : List NamedRule → Except Fault (List NamedRule)
  | [] => .ok []
  | rule :: rest => do insertByPriority rule (← byPriority rest)

def scanOrder (strategy : Strategy) (rules : List NamedRule) : Except Fault (List NamedRule) :=
  match strategy with
  | .priority => byPriority rules
  | _ => .ok rules

def matchedLine (rule : NamedRule) : LogLine :=
  ⟨.debug, .engine, "Rule '" ++ rule.id.display ++ "' matched"⟩

/-- Try rules in order, up to the first satisfied one or to the end. -/
def scan (table : PredicateTable) (o : Options) (v : Value) (toEnd : Bool) :
    List NamedRule → Run (List NamedRule)
  | [] => .answer []
  | rule :: rest => do
    if ← (evaluate table o v rule.rules).settled then
      Run.event (.said (matchedLine rule))
      if toEnd then return rule :: (← scan table o v toEnd rest) else return [rule]
    else scan table o v toEnd rest

def strategyFault (e : Engine) : Fault :=
  match e.strategy.toText with
  | .ok name => .unknownStrategy name
  | .error f => f

def matchUnder (table : PredicateTable) (e : Engine) (v : Value) (strategy : Strategy) :
    Run (List NamedRule) := do
  let rules ← Run.ofExcept (scanOrder strategy e.rules)
  scan table e.options v (strategy == .allMatch) rules

def matching (table : PredicateTable) (e : Engine) (v : Value) : Run (List NamedRule) :=
  match Strategy.ofValue? e.strategy with
  | some strategy => matchUnder table e v strategy
  | none => Run.stop (.fault e.strategyFault)

def evaluate (table : PredicateTable) (e : Engine) (v : Value) : Run Outcome :=
  match Strategy.ofValue? e.strategy with
  | some strategy => do
    let rules ← matchUnder table e v strategy
    return ⟨none, rules.map (·.id)⟩
  | none => .answer ⟨some e.strategyFault.message, []⟩

/-- The first rule found. -/
def find? (table : PredicateTable) (e : Engine) (v : Value) : Run (Option NamedRule) := do
  return (← matching table e v).head?

/-- Add a rule after all others. -/
def add (e : Engine) (rule : NamedRule) : Engine := { e with rules := e.rules ++ [rule] }

def remove (e : Engine) (id : Value) : Engine :=
  { e with rules := e.rules.filter fun rule => !rule.id.same id }

/-- The entries of a configuration; an empty one of any form has none. -/
def configEntries (config : Value) : Except Fault (List (Value × Value)) :=
  if config.truth then
    match config.entries? with
    | some entries => .ok entries
    | none => .error .missingAttribute
  else .ok []

def ofConfig (rules : List NamedRule) (config : Value) (library : Validator := Options.library) :
    Except Fault Engine := do
  let entries ← configEntries config
  let options ← Options.coerce library ((Value.lookup "options" entries).getD .null)
  return {
    rules
    strategy := (Value.lookup "match_strategy" entries).getD (.text "first_match")
    options }

end Engine

namespace Outcome

def toValue (r : Outcome) : Value :=
  .plain ([(.text "success", .bool r.problem.isNone)]
    ++ (r.problem.map fun text => (.text "error", .text text)).toList
    ++ [(.text "matches", .list r.matched), (.text "matched_count", .int r.matched.length),
      (.text "first_match", r.matched.head?.getD .null)])

end Outcome

end Criteria
