import Criteria.Proofs.Rule.DepthLimit
import Criteria.Proofs.Rule.Occurrence
import Criteria.Proofs.Rule.Recording
import Mathlib.Data.List.Basic

set_option autoImplicit false
set_option relaxedAutoImplicit false

/-!
# Observing an evaluation

Debugging and the collection of a trace only look at an evaluation. However it is observed, it has one
answer and one trace; the log without debugging is the log with it, less its debug lines, and with
debugging the judgements have their lines in order.
-/

namespace Criteria

def Options.debugging (o : Options) (debug : Bool) : Options := { o with debug := debug }

namespace Event

theorem line?_debugging (o : Options) {e : Event} (unsaid : ∀ line, e ≠ .said line) :
    e.line? (o.debugging false) =
      (e.line? (o.debugging true)).filter fun line => line.level != .debug := by
  cases e with
  | said line => exact absurd rfl (unsaid line)
  | _ => rfl

theorem log_debugging (o : Options) {events : List Event}
    (unsaid : ∀ e ∈ events, ∀ line, e ≠ .said line) :
    log (o.debugging false) events =
      (log (o.debugging true) events).filter fun line => line.level != .debug := by
  unfold log
  rw [List.filter_filterMap]
  exact List.filterMap_congr fun e member => line?_debugging o (unsaid e member)

theorem line?_of_judgement? (o : Options) {e : Event} {j : Judgement}
    (judged : e.judgement? = some j) :
    e.line? (o.debugging true) = some ⟨.debug, .evaluation, j.line⟩ := by
  cases e with
  | judged j' =>
    have same : j' = j := Option.some.inj judged
    simp [line?, Options.debugging, same]
  | _ => simp [judgement?] at judged

end Event

namespace Run

/-- Each line of the log either is the line of a judgement or comes of another event, and the
judgements that have their lines are those of the trace, in order. -/
def LogTellsTrace {α : Type} (o : Options) (r : Run α) : Prop :=
  ∃ marked : List (LogLine × Option Judgement),
    marked.map Prod.fst = r.log o ∧ marked.filterMap Prod.snd = r.trace ∧
    (∀ line j, (line, some j) ∈ marked → line = ⟨.debug, .evaluation, j.line⟩) ∧
    ∀ line, (line, none) ∈ marked →
      ∃ e ∈ r.events, e.judgement? = none ∧ e.line? o = some line

theorem logTellsTrace {α : Type} (o : Options) (r : Run α) : r.LogTellsTrace (o.debugging true) := by
  let mark (e : Event) : Option (LogLine × Option Judgement) :=
    (e.line? (o.debugging true)).map fun line => (line, e.judgement?)
  have traced (e : Event) : (mark e).bind Prod.snd = e.judgement? := by
    cases judged : e.judgement? with
    | none => cases line : e.line? (o.debugging true) <;> simp [mark, line, judged]
    | some j => simp [mark, Event.line?_of_judgement? o judged, judged]
  refine ⟨r.events.filterMap mark, ?_, ?_, ?_, ?_⟩
  · rw [List.map_filterMap]
    simp [mark, log, Event.log, Function.comp_def]
  · rw [List.filterMap_filterMap]
    simp only [traced]
    rfl
  · intro line j member
    obtain ⟨e, _, marked⟩ := List.mem_filterMap.mp member
    obtain ⟨line', written, same⟩ := Option.map_eq_some_iff.mp marked
    have judged : e.judgement? = some j := congrArg Prod.snd same
    rw [Event.line?_of_judgement? o judged] at written
    exact (congrArg Prod.fst same).symm.trans (Option.some.inj written).symm
  · intro line member
    obtain ⟨e, event, marked⟩ := List.mem_filterMap.mp member
    obtain ⟨line', written, same⟩ := Option.map_eq_some_iff.mp marked
    have first : line' = line := congrArg Prod.fst same
    exact ⟨e, event, congrArg Prod.snd same, first ▸ written⟩

end Run

namespace Evaluation.Congruence

def equality : Congruence Run Run where
  Related r r' := r = r'
  answer _ := rfl
  step _ _ := rfl
  bind first later := by rw [first, funext later]

def tracing : Congruence Run Run where
  Related r r' := r.outcome = r'.outcome ∧ r.trace = r'.trace
  answer _ := ⟨rfl, rfl⟩
  step _ _ := ⟨rfl, rfl⟩
  bind {α β r r' next next'} first later := by
    obtain ⟨outcomes, traces⟩ := first
    cases answer : r.outcome with
    | error s =>
      have answer' : r'.outcome = .error s := outcomes.symm.trans answer
      rw [Run.outcome_bind, Run.outcome_bind, Run.trace_bind_of_error answer,
        Run.trace_bind_of_error answer', answer, answer']
      exact ⟨rfl, traces⟩
    | ok a =>
      have answer' : r'.outcome = .ok a := outcomes.symm.trans answer
      rw [Run.outcome_bind, Run.outcome_bind, Run.trace_bind_of_ok answer,
        Run.trace_bind_of_ok answer', answer, answer', traces, (later a).2]
      exact ⟨(later a).1, rfl⟩

end Evaluation.Congruence

section Evaluate

variable {table : PredicateTable} {o : Options} {v rules : Value}

theorem evaluate_related_debugging (c : Evaluation.Congruence Run Run)
    (reflexive : ∀ {α : Type} (r : Run α), c.Related r r)
    (predicate : ∀ level f, rules.StandsAt level (.function f) → ∀ v,
      c.Related ((table f).judge (o.debugging true) v) ((table f).judge (o.debugging false) v)) :
    c.Related (evaluate table (o.debugging true) v rules) (evaluate table (o.debugging false) v rules) :=
  c.judge reflexive rfl rfl rfl predicate .whole

theorem event_cases
    (quiet : ∀ level f, rules.StandsAt level (.function f) → ∀ arguments,
      ((table f).call arguments).lines = []) {e : Event} (event : e ∈ (evaluate table o v rules).events) :
    e.isOrdinary = true ∨
      (∃ limit path, e = .tooDeep limit path) ∧ (evaluate table o v rules).outcome = .error .tooDeep := by
  have cut : Run.Cut o.maxDepth (∃ level node, rules.StandsAt level node ∧ o.maxDepth < level)
      (evaluate table o v rules) (evaluate table o v rules) := by
    have levels : o.maxDepth + 1 = o.maxDepth + 1 + (o.maxDepth - o.maxDepth) := by omega
    have same := @cut_judge table o rules o.maxDepth o.maxDepth (o.maxDepth + 1) 0 rules v .default ""
      (Nat.le_refl o.maxDepth) (fun _ _ _ _ => rfl) quiet .whole (Nat.zero_add (o.maxDepth + 1))
    rwa [← levels] at same
  generalize evaluate table o v rules = run at cut event ⊢
  cases cut with
  | whole ordinary _ => exact .inl (ordinary e event)
  | @short before path _ _ ordinary _ =>
    rcases List.mem_append.mp event with earlier | last
    · exact .inl (ordinary e earlier)
    · exact .inr ⟨⟨_, path, List.mem_singleton.mp last⟩, rfl⟩

theorem line_cases
    (quiet : ∀ level f, rules.StandsAt level (.function f) → ∀ arguments,
      ((table f).call arguments).lines = []) (silent : o.debug = false) {line : LogLine}
    (logged : line ∈ (evaluate table o v rules).log o) :
    (line.IsDepthWarning ∧ (evaluate table o v rules).outcome = .error .tooDeep) ∨
      (o.strict = true ∧ ∃ name path, Event.line? o (.rejected name path) = some line) := by
  obtain ⟨e, event, written⟩ := List.mem_filterMap.mp logged
  rcases event_cases quiet event with ordinary | ⟨⟨limit, path, rfl⟩, stopped⟩
  · right
    have arises : e.Arises o := Evaluation.arises_judge e event
    cases arises with
    | rejected name path strict => exact ⟨strict, name, path, written⟩
    | tooDeep path => simp [Event.isOrdinary] at ordinary
    | said line' => simp [Event.isOrdinary] at ordinary
    | _ => simp [Event.line?, silent] at written
  · exact .inl ⟨⟨o, limit, path, written⟩, stopped⟩

theorem observers_agree {answer : Except Fault Bool} {trace : List Judgement}
    (verdicts : (evaluate table o v rules).verdict = answer)
    (traces : (evaluate table o v rules).trace = trace) :
    validate table o v rules = answer ∧ explain table o v rules = answer.map (⟨·, trace⟩) ∧
      ∀ s : Session, s.options = o →
        (s.evaluate table v rules).1.verdict = answer ∧
        (s.evaluate table v rules).2.trace = s.trace.map (· ++ trace) := by
  subst verdicts traces
  refine ⟨rfl, rfl, ?_⟩
  rintro s rfl
  rw [Session.evaluate_eq, Session.foldl_note]
  exact ⟨rfl, rfl⟩

theorem log_without_debugging
    (quiet : ∀ level f, rules.StandsAt level (.function f) → ∀ arguments,
      ((table f).call arguments).lines = [])
    (indifferent : ∀ level f, rules.StandsAt level (.function f) → ∀ v,
      ((table f).judge (o.debugging true) v).outcome = ((table f).judge (o.debugging false) v).outcome) :
    (evaluate table (o.debugging false) v rules).log (o.debugging false) =
      ((evaluate table (o.debugging true) v rules).log (o.debugging true)).filter (·.level != .debug) := by
  have same : evaluate table (o.debugging true) v rules = evaluate table (o.debugging false) v rules := by
    refine evaluate_related_debugging .equality (fun r => rfl) ?_
    intro level f standing v
    have outcomes := indifferent level f standing v
    simp only [Evaluation.Congruence.equality, Predicate.judge, quiet level f standing] at outcomes ⊢
    rw [outcomes]
  rw [same]
  refine Event.log_debugging o fun e event line said => ?_
  rcases event_cases quiet event with ordinary | ⟨⟨limit, path, deep⟩, _⟩
  · simp [said, Event.isOrdinary] at ordinary
  · simp [said] at deep

end Evaluate

/-- Observing an evaluation does not change it. Validating, reporting and evaluating in a session have
one answer and one trace, with debugging and without, whether or not a trace is collected. Where
predicates say nothing, the log without debugging is the log with it, less its debug lines, and holds
depth warnings and rejections only; with debugging the log tells of the trace. -/
theorem evaluate_observed (table : PredicateTable) (o : Options) (v rules : Value)
    (indifferent : ∀ level f, rules.StandsAt level (.function f) → ∀ v,
      ((table f).judge (o.debugging true) v).outcome = ((table f).judge (o.debugging false) v).outcome) :
    let run (debug : Bool) := evaluate table (o.debugging debug) v rules
    let log (debug : Bool) := (run debug).log (o.debugging debug)
    (∃ answer trace, ∀ debug,
      validate table (o.debugging debug) v rules = answer ∧
      explain table (o.debugging debug) v rules = answer.map (⟨·, trace⟩) ∧
      ∀ s : Session, s.options = o.debugging debug →
        (s.evaluate table v rules).1.verdict = answer ∧
        (s.evaluate table v rules).2.trace = s.trace.map (· ++ trace)) ∧
    ((∀ level f, rules.StandsAt level (.function f) → ∀ arguments,
        ((table f).call arguments).lines = []) →
      log false = (log true).filter (·.level != .debug) ∧
      ∀ line ∈ log false, (line.IsDepthWarning ∧ (run false).outcome = .error .tooDeep) ∨
        (o.strict = true ∧
          ∃ name path, Event.line? (o.debugging false) (.rejected name path) = some line)) ∧
    (run true).LogTellsTrace (o.debugging true) := by
  intro run log
  have observed : (run true).outcome = (run false).outcome ∧ (run true).trace = (run false).trace := by
    refine evaluate_related_debugging .tracing (fun r => ⟨rfl, rfl⟩) ?_
    intro level f standing v
    exact ⟨indifferent level f standing v, by rw [Predicate.trace_judge, Predicate.trace_judge]⟩
  refine ⟨⟨(run false).verdict, (run false).trace, fun debug => observers_agree ?_ ?_⟩, ?_,
    Run.logTellsTrace o (run true)⟩
  · cases debug with
    | false => rfl
    | true => rw [Run.verdict, observed.1, ← Run.verdict]
  · cases debug with
    | false => rfl
    | true => exact observed.2
  · intro quiet
    exact ⟨log_without_debugging quiet indifferent, fun line logged => line_cases quiet rfl logged⟩

/-- A negation with a predicate in it, and then an unknown name, which strict options reject. -/
theorem evaluate_observed_of_rejection :
    let table : PredicateTable := fun _ => Catalog.always false
    let o : Options := { strict := true }
    let v := Value.text "Matt"
    let rules := Value.plain [(.text "not", .function (.custom "no0")), (.text "colour", .int 1)]
    let run (debug : Bool) := evaluate table (o.debugging debug) v rules
    (run true).trace.map (·.result) = [false, true, false] ∧
      (run true).LogTellsTrace (o.debugging true) ∧
      ((run false).log (o.debugging false)).length = 1 ∧
      (run false).log (o.debugging false) =
        ((run true).log (o.debugging true)).filter (·.level != .debug) := by
  intro table o v rules run
  have observed := evaluate_observed table o v rules fun _ _ _ _ => rfl
  exact ⟨rfl, observed.2.2, rfl, (observed.2.1 fun _ _ _ _ => rfl).1⟩

end Criteria
