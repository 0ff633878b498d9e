import Criteria.Containment
import Criteria.Path
import Criteria.Rule.Node
import Criteria.Rule.Predicate
import Criteria.Value.Types

set_option autoImplicit false
set_option relaxedAutoImplicit false

/-!
# Evaluation of rules

A value satisfies a tree when it satisfies every rule of it, or one of them under `any`; the rules are
judged in order until the verdict is settled. A rule whose name is not known is passed over, or fails
where the options are strict. Rules within rules are judged one level deeper, and the evaluation
recurs on the levels that are left.

The evaluation is written for every monad in which runs can be made, so that it can go on within a state
of its own; `evaluate` makes the run itself.
-/

namespace Criteria

namespace Evaluation

/-- How a rule within a rule is judged: its value, the rule, the mode and the path. -/
abbrev NestedIn (m : Type → Type) := Value → RuleNode → Mode → String → m Bool

abbrev Nested := NestedIn Run

def hasNamedType (v argument : Value) : Except Fault Bool :=
  match argument.items? with
  | some names => names.anyM v.checkType
  | none => v.checkType argument

/-- Whether a path, which has to be a text, leads to something. -/
def isAt (o : Options) (v path : Value) : Except Fault Bool :=
  if path.isText then Path.isPresent v path o.fallback else .ok false

def meetsAt (o : Options) (v : Value) (needsAll : Bool) (entry : Value × Value) : Except Fault Bool :=
  if entry.1.isText then do (← Path.resolve v entry.1 o.fallback).meets entry.2 needsAll
  else .ok false

/-- Whether a value has what an argument asks for: a path, paths, or paths with what is expected there. -/
def has (o : Options) (mode : Mode) (v argument : Value) : Except Fault Bool :=
  match argument.text?, argument.items?, argument.entries? with
  | some _, _, _ => isAt o v argument
  | none, some paths, _ => if mode == .all then paths.allM (isAt o v) else paths.anyM (isAt o v)
  | none, none, some entries => entries.allM (meetsAt o v (mode == .all))
  | none, none, none => .ok false

section Parts

variable {m : Type → Type} [Monad m] [MonadLiftT Run m]

/-- Judge what properties of a value have to satisfy, one after another, until one does not. -/
def judgeProperties (o : Options) (nested : NestedIn m) (v : Value) (path : String) :
    List (Value × Value) → m Bool
  | [] => pure true
  | (property, rules) :: rest => do
    let found ← Run.ofExcept (Path.resolve v property o.fallback)
    if ← nested found (.ofValue rules) .default (path ++ "." ++ property.display) then
      judgeProperties o nested v path rest
    else pure false

/-- Judge the opposite of a rule; a malformed rule has no opposite. -/
def judgeNegation (nested : NestedIn m) (v argument : Value) (path : String) : m Bool :=
  match RuleNode.ofValue argument with
  | .malformed _ => pure false
  | node => do return !(← nested v node .default path)

def judgeRule (o : Options) (nested : NestedIn m) (mode : Mode) (v : Value) (name : RuleName)
    (argument : Value) (path : String) : m Bool :=
  match name with
  | .type => liftM (Run.ofExcept (hasNamedType v argument))
  | .has => liftM (Run.ofExcept (has o mode v argument))
  | .any => nested v (.ofValue argument) .any path
  | .all => nested v (.ofValue argument) .all path
  | .negation => judgeNegation nested v argument path
  | .properties =>
    match argument.entries? with
    | some entries => judgeProperties o nested v path entries
    | none => pure false
  | .includesAny => liftM (Run.ofExcept (v.includesAny argument))
  | .includesAll => liftM (Run.ofExcept (v.includesAll argument))
  | .comparison c => liftM (Run.ofExcept (c.holds v argument))

/-- The path of a rule. A key is taken to have a text: integers of more than `digitLimit` digits, which
cannot be written in base ten, are left out. -/
def rulePath (path : String) (name : Value) : String :=
  if path == "" then name.display else path ++ "." ++ name.display

/-- Judge one entry of a tree, and record the judgement; a rule that is passed over has none. -/
def judgeEntry (o : Options) (nested : NestedIn m) (depth : Nat) (mode : Mode) (path : String)
    (v : Value) (entry : Value × Value) : m (Option Bool) := do
  let (name, argument) := entry
  let path := rulePath path name
  match RuleName.ofValue? name with
  | none =>
    if o.strict then
      Run.event (.rejected name path)
      Run.event (.judged ⟨path, name.display, argument, v, false, depth⟩)
      return some false
    else
      Run.event (.ignored name path)
      return none
  | some rule =>
    let result ← judgeRule o nested mode v rule argument path
    Run.event (.judged ⟨path, name.display, argument, v, result, depth⟩)
    return some result

def judgeEntries (mode : Mode) (judge : Value × Value → m (Option Bool)) :
    List (Value × Value) → m Bool
  | [] => pure (mode != .any)
  | entry :: rest => do
    match ← judge entry with
    | some result =>
      if result == (mode == .any) then return result else judgeEntries mode judge rest
    | none => judgeEntries mode judge rest

def judgeNode (table : PredicateTable) (o : Options) (nested : NestedIn m) (depth : Nat) : NestedIn m :=
  fun v node mode path =>
    match node with
    | .tree entries => judgeEntries mode (judgeEntry o nested depth mode path v) entries
    | .predicate f => do
      let result ← (table f).judge o v
      Run.event (.judged ⟨shownPath path, "predicate", .function f, v, result, depth⟩)
      return result
    | .malformed raw => do
      Run.event (.malformed path raw)
      return false

/-- Judge a node with a number of levels left; with none left the rules are nested too deeply. -/
def judgeIn (m : Type → Type) [Monad m] [MonadLiftT Run m] (table : PredicateTable) (o : Options) :
    Nat → NestedIn m
  | 0 => fun _ _ _ path => do
    Run.event (.tooDeep o.maxDepth path)
    Run.stop .tooDeep
  | left + 1 => judgeNode table o (judgeIn m table o left) (o.maxDepth - left)

end Parts

def judge (table : PredicateTable) (o : Options) : Nat → Nested := judgeIn Run table o

theorem judge_zero (table : PredicateTable) (o : Options) :
    judge table o 0 = fun _ _ _ path =>
      (do Run.event (.tooDeep o.maxDepth path); Run.stop .tooDeep) := rfl

theorem judge_succ (table : PredicateTable) (o : Options) (left : Nat) :
    judge table o (left + 1) = judgeNode table o (judge table o left) (o.maxDepth - left) := rfl

end Evaluation

def evaluate (table : PredicateTable) (o : Options) (v rules : Value) : Run Bool :=
  Evaluation.judge table o (o.maxDepth + 1) v (.ofValue rules) .default ""

def validate (table : PredicateTable) (o : Options) (v rules : Value) : Except Fault Bool :=
  (evaluate table o v rules).verdict

end Criteria
