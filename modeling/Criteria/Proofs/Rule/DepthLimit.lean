import Criteria.Proofs.Rule.Congruence
import Criteria.Rule.Catalog

set_option autoImplicit false
set_option relaxedAutoImplicit false

/-!
# The depth limit

Under a lower limit on their depth, rules are judged as under a higher one until one of them is too
deep, and that stops the whole evaluation.
-/

namespace Criteria

def LogLine.IsDepthWarning (line : LogLine) : Prop :=
  ∃ o limit path, Event.line? o (.tooDeep limit path) = some line

theorem Event.not_isDepthWarning {o : Options} {e : Event} {line : LogLine}
    (ordinary : e.isOrdinary = true) (written : line? o e = some line) : ¬ line.IsDepthWarning := by
  rintro ⟨o', limit, path, warning⟩
  rw [← written] at warning
  cases e with
  | rejected name path' =>
    simp only [line?, Option.some.injEq, LogLine.mk.injEq, true_and] at warning
    have initial := congrArg (fun message : String => message.toList.head?) warning
    simp at initial
  | tooDeep limit path => simp [isOrdinary] at ordinary
  | said line => simp [isOrdinary] at ordinary
  | _ =>
    simp only [line?] at warning
    split at warning <;> simp at warning

namespace Run

/-- A run under a depth limit is the one compared with, or was stopped on the way of it. -/
inductive Cut {α : Type} (limit : Nat) (deep : Prop) : Run α → Run α → Prop
  | whole {r : Run α} :
      (∀ e ∈ r.events, e.isOrdinary = true) → r.outcome ≠ .error .tooDeep → Cut limit deep r r
  | short {before : List Event} {path : String} {r : Run α} :
      deep → (∀ e ∈ before, e.isOrdinary = true) → before <+: r.events →
      Cut limit deep ⟨before ++ [.tooDeep limit path], .error .tooDeep⟩ r

namespace Cut

variable {α β : Type} {limit : Nat} {deep : Prop}

theorem answer (a : α) : Cut limit deep (Run.answer a) (Run.answer a) :=
  .whole (by simp [Run.answer]) (by simp [Run.answer])

theorem bind {r r' : Run α} {next next' : α → Run β} (first : Cut limit deep r r')
    (later : ∀ a, Cut limit deep (next a) (next' a)) :
    Cut limit deep (r >>= next) (r' >>= next') := by
  cases first with
  | whole ordinary uncut =>
    obtain ⟨events, s | a⟩ := r
    · exact .whole ordinary fun cut => uncut (congrArg Except.error (Except.error.inj cut))
    · change Cut limit deep ⟨events ++ (next a).events, (next a).outcome⟩
        ⟨events ++ (next' a).events, (next' a).outcome⟩
      have second := later a
      generalize next a = run, next' a = run' at second ⊢
      cases second with
      | whole ordinaryLater uncutLater =>
        exact .whole (List.forall_mem_append.mpr ⟨ordinary, ordinaryLater⟩) uncutLater
      | short isDeep ordinaryLater onTheWay =>
        rw [← List.append_assoc]
        exact .short isDeep (List.forall_mem_append.mpr ⟨ordinary, ordinaryLater⟩)
          ((List.prefix_append_right_inj events).mpr onTheWay)
  | short isDeep ordinary onTheWay =>
    refine .short isDeep ordinary (onTheWay.trans ?_)
    change _ <+: (r'.andThen next').events
    rw [events_andThen]
    exact List.prefix_append _ _

def congruence (limit : Nat) (deep : Prop) : Evaluation.Congruence Run Run where
  Related := Cut limit deep
  answer := answer
  step := .whole
  bind := bind

theorem trace_prefix {r r' : Run α} (cut : Cut limit deep r r') : r.trace <+: r'.trace := by
  cases cut with
  | whole => exact List.prefix_refl _
  | short _ _ onTheWay =>
    rw [trace, Event.trace_append]
    change Event.trace _ ++ [] <+: _
    rw [List.append_nil]
    exact onTheWay.filterMap Event.judgement?

theorem not_isDepthWarning_of_mem_log {o : Options} {events : List Event} {line : LogLine}
    (ordinary : ∀ e ∈ events, e.isOrdinary = true) (member : line ∈ Event.log o events) :
    ¬ line.IsDepthWarning := by
  obtain ⟨e, event, written⟩ := List.mem_filterMap.mp member
  exact Event.not_isDepthWarning (ordinary e event) written

end Cut

end Run

variable {table : PredicateTable} {o : Options} {rules : Value} {m m' : Nat}

/-- From the same node on, the evaluation with a lower limit is cut short where rules stand too deep.
The levels left differ by as much as the limits do, so that both evaluations see the same depth. -/
theorem cut_judge {left level : Nat} {node v : Value} {mode : Mode} {path : String}
    (within : m ≤ m')
    (steady : ∀ level f, rules.StandsAt level (.function f) → ∀ v,
      (table f).judge { o with maxDepth := m } v = (table f).judge { o with maxDepth := m' } v)
    (quiet : ∀ level f, rules.StandsAt level (.function f) → ∀ arguments,
      ((table f).call arguments).lines = [])
    (standing : rules.StandsAt level node) (place : level + left = m + 1) :
    Run.Cut m (∃ level node, rules.StandsAt level node ∧ m < level)
      (Evaluation.judge table { o with maxDepth := m } left v (.ofValue node) mode path)
      (Evaluation.judge table { o with maxDepth := m' } (left + (m' - m)) v (.ofValue node) mode path)
    := by
  induction left generalizing level node v mode path with
  | zero =>
    -- No levels are left, so this very node stands deeper than the lower limit.
    have below : m < level := by omega
    exact .short ⟨level, node, standing, below⟩ (by simp) (List.nil_prefix)
  | succ left ih =>
    have sameDepth : m - left = m' - (left + (m' - m)) := by omega
    rw [Nat.add_right_comm]
    simp only [Evaluation.judge_succ, sameDepth]
    refine (Run.Cut.congruence m _).judgeNode rfl rfl ?_ ?_
    · -- A predicate answers alike under both limits, and adds no line that could be a warning.
      rintro f rfl
      rw [steady level f standing v]
      refine .whole ?_ (Predicate.outcome_judge_ne_tooDeep _ _ v)
      simp [Predicate.judge, quiet level f standing]
    · intro inner inside found mode path
      exact ih (standing.within inside) (by omega)

/-- A run ends as another one does, and no depth warning is in its log. -/
structure Run.EndsAs (o : Options) (r r' : Run Bool) : Prop where
  verdict : r.verdict = r'.verdict
  trace : r.trace = r'.trace
  unwarned : ∀ line ∈ r.log o, ¬ line.IsDepthWarning

/-- A run fails on the way of another one, and its last message is its only depth warning. -/
structure Run.StopsShortOf (o : Options) (r r' : Run Bool) : Prop where
  verdict : r.verdict = .ok false
  warned : ∃ before path warning, Event.line? o (.tooDeep o.maxDepth path) = some warning ∧
    r.log o = before ++ [warning] ∧ ∀ line ∈ before, ¬ line.IsDepthWarning
  trace : r.trace <+: r'.trace

theorem Run.Cut.endsAs_or_stopsShortOf {deep : Prop} {r r' : Run Bool}
    (cut : Run.Cut o.maxDepth deep r r') : r.EndsAs o r' ∨ deep ∧ r.StopsShortOf o r' := by
  have traced := cut.trace_prefix
  cases cut with
  | whole ordinary _ =>
    exact .inl ⟨rfl, rfl, fun line member => not_isDepthWarning_of_mem_log ordinary member⟩
  | @short before path _ isDeep ordinary _ =>
    refine .inr ⟨isDeep, rfl, ⟨Event.log o before, path, _, rfl, ?_, ?_⟩, traced⟩
    · exact Event.log_append o before [.tooDeep o.maxDepth path]
    · exact fun line member => not_isDepthWarning_of_mem_log ordinary member

/-- A lower depth limit only ever cuts an evaluation short, and not where the rules nest within it. -/
theorem evaluate_depthLimit (table : PredicateTable) (o : Options) (m m' : Nat) (v rules : Value)
    (within : m ≤ m')
    (steady : ∀ level f, rules.StandsAt level (.function f) → ∀ v,
      (table f).judge { o with maxDepth := m } v = (table f).judge { o with maxDepth := m' } v)
    (quiet : ∀ level f, rules.StandsAt level (.function f) → ∀ arguments,
      ((table f).call arguments).lines = []) :
    let low := { o with maxDepth := m }
    let run := evaluate table low v rules
    let fuller := evaluate table { o with maxDepth := m' } v rules
    (run.EndsAs low fuller ∨ run.StopsShortOf low fuller) ∧
      ((∀ level node, rules.StandsAt level node → level ≤ m) → run.EndsAs low fuller) ∧
      (run.verdict = .ok true → fuller.verdict = .ok true) := by
  intro low run fuller
  have cut : Run.Cut m (∃ level node, rules.StandsAt level node ∧ m < level) run fuller := by
    have levels : m' + 1 = m + 1 + (m' - m) := by omega
    change Run.Cut m _ (Evaluation.judge table low (m + 1) v (.ofValue rules) .default "")
      (Evaluation.judge table { o with maxDepth := m' } (m' + 1) v (.ofValue rules) .default "")
    rw [levels]
    exact cut_judge within steady quiet .whole (Nat.zero_add (m + 1))
  have compared : run.EndsAs low fuller ∨
      (∃ level node, rules.StandsAt level node ∧ m < level) ∧ run.StopsShortOf low fuller :=
    Run.Cut.endsAs_or_stopsShortOf cut
  refine ⟨compared.imp_right And.right, ?_, ?_⟩
  · intro shallow
    rcases compared with same | ⟨⟨level, node, standing, below⟩, _⟩
    · exact same
    · exact absurd (shallow level node standing) (by omega)
  · intro holds
    rcases compared with same | ⟨_, short⟩
    · rw [← same.verdict, holds]
    · simp [short.verdict] at holds

/-- A negation within a negation stands too deep for a limit of one. -/
theorem evaluate_depthLimit_of_double_negation :
    let table : PredicateTable := fun _ => Catalog.always true
    let v := Value.text "Matt"
    let inner := Value.plain [(.text "not", .function (.custom "yes0"))]
    let rules := Value.plain [(.text "not", inner)]
    let run := evaluate table { maxDepth := 1 } v rules
    let fuller := evaluate table { maxDepth := 2 } v rules
    fuller.verdict = .ok true ∧ run.StopsShortOf { maxDepth := 1 } fuller := by
  intro table v inner rules run fuller
  have answers : fuller.verdict = .ok true := rfl
  have fails : run.verdict = .ok false := rfl
  have compared := (evaluate_depthLimit table {} 1 2 v rules (by decide) (fun _ _ _ _ => rfl)
    (fun _ _ _ _ => rfl)).1
  rcases compared with same | short
  · have verdicts : run.verdict = fuller.verdict := same.verdict
    simp [fails, answers] at verdicts
  · exact ⟨answers, short⟩

end Criteria
