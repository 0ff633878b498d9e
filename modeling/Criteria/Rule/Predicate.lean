import Criteria.Rule.Run

set_option autoImplicit false
set_option relaxedAutoImplicit false

/-!
# Predicates

A predicate is called with the value, nothing, and the options, or with as many of these, from the
first one on, as it takes.
-/

namespace Criteria

inductive Argument
  | value (v : Value)
  | nothing
  | options (o : Options)

/-- What a predicate answers, and the lines it has the log say before. -/
structure Reply where
  lines : List LogLine := []
  verdict : Except Fault Bool

/-- A callable rule: how many arguments it takes, or any number, and what it answers to them. -/
structure Predicate where
  arity : Option Nat
  call : List Argument → Reply

abbrev PredicateTable := FunctionName → Predicate

namespace Predicate

def arguments (p : Predicate) (o : Options) (v : Value) : List Argument :=
  let all := [.value v, .nothing, .options o]
  match p.arity with
  | some arity => all.take arity
  | none => all

def judge (p : Predicate) (o : Options) (v : Value) : Run Bool :=
  let reply := p.call (p.arguments o v)
  ⟨reply.lines.map .said, reply.verdict.mapError .fault⟩

end Predicate

end Criteria
