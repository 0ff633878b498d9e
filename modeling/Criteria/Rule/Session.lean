import Criteria.Rule.Evaluation
import Criteria.Value.Conversion

set_option autoImplicit false
set_option relaxedAutoImplicit false

/-!
# Sessions

A session evaluates one thing after another under the same options. Where it collects a trace, an
evaluation carries that along and adds each judgement when it is made, so that what it has judged is
kept when it is stopped.
-/

namespace Criteria

/-- The options of a session, and the trace where it collects one. -/
structure Session where
  options : Options
  trace : Option (List Judgement)

namespace Session

/-- A session that has evaluated nothing. -/
def start (o : Options) (collects : Bool) : Session := ⟨o, if collects then some [] else none⟩

def record (s : Session) (judgements : List Judgement) : Session :=
  { s with trace := s.trace.map (· ++ judgements) }

/-- Note an event as it happens: a judgement is added to the trace. -/
def note (s : Session) (e : Event) : Session := s.record e.judgement?.toList

/-- What is done within a session: a run, and the session after it. -/
def Step (α : Type) := Session → Run α × Session

namespace Step

variable {α β : Type}

/-- One step and then another in the session that the first one leaves, where that one answers. -/
def andThen (step : Step α) (next : α → Step β) : Step β := fun s =>
  let (run, s) := step s
  match run.outcome with
  | .ok a =>
    let (rest, s) := next a s
    (⟨run.events ++ rest.events, rest.outcome⟩, s)
  | .error stop => (⟨run.events, .error stop⟩, s)

instance : Monad Step where
  pure a := fun s => (.answer a, s)
  bind := andThen

instance : MonadLift Run Step where
  monadLift run := fun s => (run, run.events.foldl note s)

end Step

/-- Evaluate rules against a value: the run, and the session after it. -/
def evaluate (table : PredicateTable) (s : Session) (v rules : Value) : Run Bool × Session :=
  Evaluation.judgeIn Step table s.options (s.options.maxDepth + 1) v (.ofValue rules) .default "" s

def clear (s : Session) : Session := { s with trace := s.trace.map fun _ => [] }

end Session

/-- Whether a value names a rule; what cannot be a key cannot be asked about. -/
def isKnownRule (name : Value) : Except Fault Bool :=
  if name.isHashable then .ok (RuleName.ofValue? name).isSome else .error .wrongType

end Criteria
