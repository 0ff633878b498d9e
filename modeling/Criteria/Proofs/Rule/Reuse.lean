import Criteria.Proofs.Rule.Interruption
import Criteria.Proofs.Rule.Recording
import Criteria.Rule.Catalog

set_option autoImplicit false
set_option relaxedAutoImplicit false

/-!
# Sessions that are used again

A session that evaluates one thing after another gives each the answer that a new session gives it. Its
trace only grows: each evaluation adds what it has judged, up to the place where it is stopped if it is.
-/

namespace Criteria

namespace Session

/-- Evaluate one thing after another in a session: the answers, and the session after them. -/
def evaluateAll (table : PredicateTable) (s : Session) :
    List (Value × Value) → List (Except Fault Bool) × Session
  | [] => ([], s)
  | (v, rules) :: rest =>
    let (run, next) := s.evaluate table v rules
    let (answers, last) := next.evaluateAll table rest
    (run.verdict :: answers, last)

variable {table : PredicateTable}

/-- What a session has done before is neither seen by what it evaluates nor lost. -/
theorem evaluateAll_eq (s : Session) (steps : List (Value × Value)) :
    s.evaluateAll table steps =
      (steps.map fun step => (Criteria.evaluate table s.options step.1 step.2).verdict,
        s.record (steps.flatMap fun step => (Criteria.evaluate table s.options step.1 step.2).trace)) := by
  induction steps generalizing s with
  | nil => rw [evaluateAll, List.flatMap_nil, record_nil, List.map_nil]
  | cons step rest ih =>
    obtain ⟨v, rules⟩ := step
    rw [evaluateAll, evaluate_eq, foldl_note]
    simp only [ih, List.flatMap_cons, record_append, List.map_cons]
    rfl

/-- A session answers each step as a new session would, and its trace after any number of steps is that
of the new sessions, one after another. Judgements are added as they are made, so that a step that is
stopped adds those that come before the place. -/
theorem evaluateAll_as_fresh (o : Options) (steps : List (Value × Value)) :
    let fresh (step : Value × Value) := (start o true).evaluate table step.1 step.2
    let after (count : Nat) := (start o true).evaluateAll table (steps.take count)
    ((start o true).evaluateAll table steps).1 = steps.map (fun step => (fresh step).1.verdict) ∧
    (∀ count, (after count).2.trace =
      some ((steps.take count).flatMap fun step => (fresh step).2.trace.getD [])) ∧
    (∀ (s : Session) (v rules : Value),
      (s.evaluate table v rules).2 = (s.evaluate table v rules).1.events.foldl note s) ∧
    ∀ v rules s made, (fresh (v, rules)).1.outcome = .error s ∧ (fresh (v, rules)).2.trace = some made ↔
      Evaluation.Stopped table o s (o.maxDepth + 1) v (.ofValue rules) .default "" made := by
  intro fresh after
  have ran (step : Value × Value) : fresh step =
      (Criteria.evaluate table o step.1 step.2,
        (start o true).record (Criteria.evaluate table o step.1 step.2).trace) :=
    ((start o true).evaluate_eq step.1 step.2).trans (by rw [foldl_note]; rfl)
  refine ⟨?_, fun count => ?_, fun s v rules => ?_, fun v rules s made => ?_⟩
  · simp only [evaluateAll_eq, ran]
    rfl
  · simp only [after, evaluateAll_eq, ran]
    rfl
  · rw [evaluate_eq]
  · rw [ran]
    simp only [record, start, if_true, Option.map_some, List.nil_append, Option.some.injEq]
    exact Evaluation.stopsAfter_judge_iff (o.maxDepth + 1) (.ofValue rules)

/-- A step that a predicate stops leaves what was judged before, and the next step is judged as ever. -/
example :
    let steps := [
      (Value.text "Matt", Value.plain [(.text "type", .text "string"),
        (.text "not", .function (.custom "boom_value"))]),
      (.int 5, .plain [(.text "type", .text "number")])]
    let after := (start {} true).evaluateAll Catalog.table steps
    after.1 = [.error (.failure "boom"), .ok true] ∧
      after.2.trace.map (·.map (·.value.isText)) = some [true, false] :=
  ⟨rfl, rfl⟩

end Session

end Criteria
