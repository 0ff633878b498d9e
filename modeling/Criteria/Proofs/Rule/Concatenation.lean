import Criteria.Proofs.Rule.Outcome
import Criteria.Rule.Catalog

set_option autoImplicit false
set_option relaxedAutoImplicit false

/-!
# Trees one after the other

A tree can be cut in two: the entries of the first part are judged, and then those of the second part,
unless the first part has settled the verdict. Both parts are trees of their own, and judged on their own
each leaves the events that it leaves within the whole.
-/

namespace Criteria

namespace Run

variable {r r' : Run Bool} {settling : Bool}

/-- One run, and then another one, unless the first one gives the answer that settles the verdict. -/
def continuedBy (r : Run Bool) (settling : Bool) (next : Run Bool) : Run Bool := do
  let result ← r
  if result == settling then return result else next

theorem continuedBy_of_closed (closed : r.outcome ≠ .ok !settling) (next : Run Bool) :
    r.continuedBy settling next = r := by
  have whole : r.continuedBy settling next = r >>= pure := by
    refine bind_congr_of_outcome fun result answer => ?_
    have settles : result = settling := by
      cases result <;> cases settling <;> first | rfl | exact absurd answer closed
    simp [settles]
  rw [whole, bind_pure]

theorem continuedBy_of_open (unsettled : r.outcome = .ok !settling) (next : Run Bool) :
    r.continuedBy settling next = ⟨r.events ++ next.events, next.outcome⟩ := by
  obtain ⟨events, _⟩ := r
  subst unsettled
  have opening : ((!settling) == settling) = false := by cases settling <;> rfl
  rw [continuedBy]
  change andThen ⟨events, .ok !settling⟩ _ = _
  simp [andThen, opening]

theorem trace_continuedBy_of_open (unsettled : r.outcome = .ok !settling) (next : Run Bool) :
    (r.continuedBy settling next).trace = r.trace ++ next.trace := by
  rw [continuedBy_of_open unsettled]
  exact Event.trace_append r.events next.events

theorem outcome_continuedBy_congr {next next' : Run Bool} (same : r.outcome = r'.outcome)
    (sameNext : next.outcome = next'.outcome) :
    (r.continuedBy settling next).outcome = (r'.continuedBy settling next').outcome := by
  simp only [continuedBy, outcome_bind, same]
  congr 1
  funext result
  split
  · rfl
  · exact sameNext

theorem verdict_of_continued {whole first second : Run Bool}
    (continued : whole.outcome = (first.continuedBy settling second).outcome)
    (settled : settling = false ∨ first.outcome ≠ .error .tooDeep) :
    (first.verdict ≠ .ok !settling → whole.verdict = first.verdict) ∧
      (first.verdict = .ok !settling → whole.verdict = second.verdict) := by
  constructor
  · intro closed
    have stays : first.outcome ≠ .ok !settling := fun answer => closed (verdict_eq_ok_iff.mpr (.inl answer))
    rw [continuedBy_of_closed stays] at continued
    exact verdict_congr continued
  · intro unsettled
    have answer : first.outcome = .ok !settling := by
      rcases verdict_eq_ok_iff.mp unsettled with answer | ⟨deep, fails⟩
      · exact answer
      · rcases settled with strict | shallow
        · simp [strict] at fails
        · exact absurd deep shallow
    rw [continuedBy_of_open answer] at continued
    exact verdict_congr continued

end Run

/-- A tree has the entries of one tree and then those of another. -/
def Value.Joins (whole first second : Value) : Prop :=
  ∃ front back, first.entries? = some front ∧ second.entries? = some back ∧
    whole.entries? = some (front ++ back)

namespace Evaluation

variable {table : PredicateTable} {o : Options} {mode : Mode} {path : String}
  {v whole first second : Value}

theorem judgeEntries_append (judge : Value × Value → Run (Option Bool))
    (front back : List (Value × Value)) :
    judgeEntries mode judge (front ++ back) =
      (judgeEntries mode judge front).continuedBy (mode == .any) (judgeEntries mode judge back) := by
  induction front with
  | nil =>
    have unsettled : (judgeEntries mode judge []).outcome = .ok !(mode == .any) := rfl
    rw [Run.continuedBy_of_open unsettled]
    rfl
  | cons entry rest ih =>
    rw [List.cons_append, judgeEntries, judgeEntries, Run.continuedBy, bind_assoc]
    congr 1
    funext result
    cases result with
    | none => exact ih
    | some b =>
      -- An entry that settles the verdict does so for its own tree and for the whole.
      by_cases settles : (b == (mode == .any)) = true
      · simp only [settles, if_true, pure_bind]
      · simp only [settles]
        exact ih

theorem judge_joined (joined : whole.Joins first second) (left : Nat) :
    judge table o left v (.ofValue whole) mode path =
      (judge table o left v (.ofValue first) mode path).continuedBy (mode == .any)
        (judge table o left v (.ofValue second) mode path) := by
  cases left with
  | zero => exact (Run.continuedBy_of_closed (by simp) _).symm
  | succ left =>
    obtain ⟨front, back, isFirst, isSecond, isWhole⟩ := joined
    rw [RuleNode.ofValue_of_entries isFirst, RuleNode.ofValue_of_entries isSecond,
      RuleNode.ofValue_of_entries isWhole]
    exact judgeEntries_append _ front back

theorem outcome_evaluate_nesting {key : String}
    (nesting : ∀ rules, (evaluate table o v (.plain [(.text key, rules)])).outcome =
      (judge table o o.maxDepth v (.ofValue rules) mode key).outcome)
    (joined : whole.Joins first second) :
    (evaluate table o v (.plain [(.text key, whole)])).outcome =
      ((evaluate table o v (.plain [(.text key, first)])).continuedBy (mode == .any)
        (evaluate table o v (.plain [(.text key, second)]))).outcome := by
  rw [nesting, judge_joined joined]
  exact Run.outcome_continuedBy_congr (nesting first).symm (nesting second).symm

end Evaluation

/-- A tree is judged by its first part and, where that is satisfied, by its second part, whose judgements
then follow those of the first. Under `all` the verdicts are put together in the same way, and under `any`
the second part is asked where the first one is not satisfied, unless it nests too deeply. -/
theorem evaluate_joined (table : PredicateTable) (o : Options) (v : Value) {whole first second : Value}
    (joined : whole.Joins first second) :
    let run (rules : Value) := evaluate table o v rules
    let all (rules : Value) := run (.plain [(.text "all", rules)])
    let any (rules : Value) := run (.plain [(.text "any", rules)])
    ((run first).verdict ≠ .ok true →
      (run whole).verdict = (run first).verdict ∧ (run whole).trace = (run first).trace) ∧
    ((run first).verdict = .ok true →
      (run whole).verdict = (run second).verdict ∧
      (run whole).trace = (run first).trace ++ (run second).trace) ∧
    ((all first).verdict ≠ .ok true → (all whole).verdict = (all first).verdict) ∧
    ((all first).verdict = .ok true → (all whole).verdict = (all second).verdict) ∧
    ((any first).outcome ≠ .error .tooDeep →
      ((any first).verdict ≠ .ok false → (any whole).verdict = (any first).verdict) ∧
      ((any first).verdict = .ok false → (any whole).verdict = (any second).verdict)) := by
  intro run all any
  have together : run whole = (run first).continuedBy false (run second) :=
    Evaluation.judge_joined joined (o.maxDepth + 1)
  have underAll : (all whole).outcome = ((all first).continuedBy false (all second)).outcome :=
    Evaluation.outcome_evaluate_nesting
      (fun rules => Evaluation.outcome_judge_single .all rules o.maxDepth) joined
  have underAny : (any whole).outcome = ((any first).continuedBy true (any second)).outcome :=
    Evaluation.outcome_evaluate_nesting
      (fun rules => Evaluation.outcome_judge_single .any rules o.maxDepth) joined
  obtain ⟨allClosed, allOpen⟩ := Run.verdict_of_continued underAll (.inl rfl)
  refine ⟨fun closed => ?_, fun satisfied => ?_, allClosed, allOpen,
    fun shallow => Run.verdict_of_continued underAny (.inr shallow)⟩
  · have stays : (run first).outcome ≠ .ok true := fun answer => closed (Run.verdict_eq_ok_iff.mpr (.inl answer))
    rw [together, Run.continuedBy_of_closed stays]
    exact ⟨rfl, rfl⟩
  · have answer : (run first).outcome = .ok true := Run.outcome_eq_true_of_verdict satisfied
    rw [together]
    exact ⟨Run.verdict_congr (by rw [Run.continuedBy_of_open answer]),
      Run.trace_continuedBy_of_open answer _⟩

/-- A text of the right type that does not begin as it should. -/
theorem evaluate_joined_of_prefix :
    let v := Value.text "Matt"
    let first := Value.plain [(.text "type", .text "string")]
    let second := Value.plain [(.text "startsWith", .text "G"), (.text "neq", .null)]
    let whole := Value.plain
      [(.text "type", .text "string"), (.text "startsWith", .text "G"), (.text "neq", .null)]
    let run (rules : Value) := evaluate Catalog.table {} v rules
    whole.Joins first second ∧ (run first).verdict = .ok true ∧ (run whole).verdict = .ok false ∧
      (run whole).trace.map (·.result) = [true, false] := by
  intro v first second whole run
  have joined : whole.Joins first second := ⟨_, _, rfl, rfl, rfl⟩
  have satisfied : (run first).verdict = .ok true := rfl
  obtain ⟨verdict, trace⟩ := (evaluate_joined Catalog.table {} v joined).2.1 satisfied
  refine ⟨joined, satisfied, verdict.trans rfl, ?_⟩
  exact (congrArg (List.map (·.result)) trace).trans rfl

end Criteria
