import Criteria.Proofs.Path.Resolution
import Criteria.Proofs.Rule.Polarity

set_option autoImplicit false
set_option relaxedAutoImplicit false

/-!
# Fallback data

Fallback data is asked for a path only where the value leads nowhere, so whatever a value has without the
data it has with it. Rules in which nothing is turned around and no property is entered ask for more to be
there and never for less, so they do not fail with the data if they hold without it.
-/

namespace Criteria

namespace Evaluation

variable {table : PredicateTable} {o o' : Options} {nested nested' : Nested} {depth left level : Nat}
  {mode : Mode} {path : String} {v w property argument rules node : Value} {entry : Value × Value}
  {needsAll : Bool}

theorem resolve_of_bare (bare : o.data = none) (resolved : Path.resolve v property o.fallback = .ok w)
    (defined : w ≠ .undefined) : Path.resolve v property o'.fallback = .ok w := by
  have alone : o.fallback = none := by rw [Options.fallback, bare, Option.map_none]
  rw [alone, Path.resolve_none] at resolved
  exact Path.resolve_of_found resolved defined

theorem isAt_of_bare (bare : o.data = none) (holds : isAt o v property = .ok true) :
    isAt o' v property = .ok true := by
  unfold isAt at holds ⊢
  split at holds
  · rename_i isText
    obtain ⟨w, resolved, present⟩ := Path.isPresent_eq_ok_iff.mp holds
    have defined : w ≠ .undefined := present.mp rfl
    rw [if_pos isText]
    exact Path.isPresent_eq_ok_iff.mpr ⟨w, resolve_of_bare bare resolved defined, present⟩
  · simp at holds

theorem meetsAt_of_bare (bare : o.data = none) (holds : meetsAt o v needsAll entry = .ok true) :
    meetsAt o' v needsAll entry = .ok true := by
  unfold meetsAt at holds ⊢
  split at holds
  · rename_i isText
    obtain ⟨w, resolved, met⟩ := Search.bind_eq_ok_iff.mp holds
    have defined : w ≠ .undefined := by
      rintro rfl
      simp [Value.meets, Value.isUndefined] at met
    rw [if_pos isText]
    exact Search.bind_eq_ok_iff.mpr ⟨w, resolve_of_bare bare resolved defined, met⟩
  · simp at holds

/-- A `has` that holds without fallback data does not fail with it. It may be stopped, at a path that is
not reached without the data. -/
theorem has_ne_false_of_bare (bare : o.data = none) (holds : has o mode v argument = .ok true) :
    has o' mode v argument ≠ .ok false := by
  unfold has at holds ⊢
  split at holds
  · rw [isAt_of_bare bare holds]
    simp
  · rename_i paths _ _
    split at holds
    · rename_i asksAll
      have each := (Search.allM_eq_true_iff paths).mp holds
      have stays : paths.allM (isAt o' v) = .ok true :=
        (Search.allM_eq_true_iff paths).mpr fun path member => isAt_of_bare bare (each path member)
      simp [asksAll, stays]
    · rename_i asksOne
      obtain ⟨path, member, found⟩ := Search.exists_of_anyM holds (by simp)
      rw [if_neg asksOne]
      intro fails
      have missed := (Search.anyM_eq_false_iff paths).mp fails path member
      rw [isAt_of_bare bare found] at missed
      simp at missed
  · rename_i asked _ _ _
    have each := (Search.allM_eq_true_iff asked).mp holds
    have stays : asked.allM (meetsAt o' v (mode == .all)) = .ok true :=
      (Search.allM_eq_true_iff asked).mpr fun entry member => meetsAt_of_bare bare (each entry member)
    simp [stays]
  · simp at holds

theorem upholds_judgeRule_of_bare {key : Value} {entries : List (Value × Value)} {name : RuleName}
    (bare : o.data = none) (mapping : node.entries? = some entries) (member : (key, argument) ∈ entries)
    (named : RuleName.ofValue? key = some name) (straight : name ≠ .negation ∧ name ≠ .properties)
    (inside : ∀ inner ∈ node.innerRules, ∀ mode path,
      (nested v (.ofValue inner) mode path).Upholds (nested' v (.ofValue inner) mode path)) :
    (judgeRule o nested mode v name argument path).Upholds
      (judgeRule o' nested' mode v name argument path) := by
  have held (nesting : name ∈ [RuleName.any, .all, .negation]) : argument ∈ node.innerRules :=
    Value.argument_mem_innerRules mapping member named nesting
  cases name with
  | any => exact inside argument (held (by simp)) .any path
  | all => exact inside argument (held (by simp)) .all path
  | negation => exact absurd rfl straight.1
  | properties => exact absurd rfl straight.2
  | has =>
    intro yes no
    exact has_ne_false_of_bare bare (Run.outcome_ofExcept_eq_ok_iff.mp yes)
      (Run.outcome_ofExcept_eq_ok_iff.mp no)
  | _ => exact .of_outcome_eq rfl

theorem upholds_judge_of_bare (bare : o.data = none) (sameStrict : o.strict = o'.strict)
    (sameLimit : o.maxDepth = o'.maxDepth)
    (straight : ∀ argument, ¬ rules.Asks .negation argument ∧ ¬ rules.Asks .properties argument)
    (steady : ∀ level f, rules.StandsAt level (.function f) → ∀ v,
      ((table f).judge o v).outcome = ((table f).judge o' v).outcome)
    (standing : rules.StandsAt level node) :
    (judge table o left v (.ofValue node) mode path).Upholds
      (judge table o' left v (.ofValue node) mode path) := by
  induction left generalizing level node mode path with
  | zero =>
    intro yes
    simp at yes
  | succ left ih =>
    simp only [judge_succ, sameLimit]
    rcases RuleNode.ofValue_cases node with
      ⟨entries, mapping, tree⟩ | ⟨f, rfl, called⟩ | ⟨_, malformed⟩
    · rw [tree]
      apply upholds_judgeEntries_of_rules
      · intro key argument name member named
        have asked : rules.Asks name argument := ⟨level, node, entries, key, standing, mapping, member, named⟩
        refine upholds_judgeRule_of_bare bare mapping member named ?_ ?_
        · exact ⟨fun turned => (straight argument).1 (turned ▸ asked),
            fun entered => (straight argument).2 (entered ▸ asked)⟩
        · intro inner inside mode path
          exact ih (standing.within inside)
      · intro _ _ _ strict
        rw [sameStrict, strict]
    · rw [called]
      apply Run.Upholds.of_outcome_eq
      simp only [judgeNode, monadLift_self, Run.outcome_bind, steady level f standing v]
    · rw [malformed]
      exact .of_outcome_eq rfl

end Evaluation

/-- Rules in which there is no `not` and no `match`, and which a value satisfies on its own, it satisfies with
fallback data too, if the evaluation with the data comes to an answer. -/
theorem evaluate_fallback (table : PredicateTable) (o : Options) (data : List (String × Value))
    (v rules : Value)
    (straight : ∀ argument, ¬ rules.Asks .negation argument ∧ ¬ rules.Asks .properties argument)
    (steady : ∀ level f, rules.StandsAt level (.function f) → ∀ v,
      ((table f).judge { o with data := none } v).outcome =
        ((table f).judge { o with data := some data } v).outcome)
    (satisfied : validate table { o with data := none } v rules = .ok true)
    (answers : ∃ b, (evaluate table { o with data := some data } v rules).outcome = .ok b) :
    validate table { o with data := some data } v rules = .ok true := by
  have upheld : (evaluate table { o with data := none } v rules).Upholds
      (evaluate table { o with data := some data } v rules) :=
    Evaluation.upholds_judge_of_bare rfl rfl rfl straight steady .whole
  have holds : (evaluate table { o with data := none } v rules).outcome = .ok true :=
    Run.outcome_eq_true_of_verdict satisfied
  obtain ⟨b, answer⟩ := answers
  have yes : b = true := by
    cases b with
    | true => rfl
    | false => exact absurd answer (upheld holds)
  exact Run.verdict_eq_ok_iff.mpr (.inl (yes ▸ answer))

/-- An age that only the fallback data has settles a choice before the predicate that settles it without. -/
theorem evaluate_fallback_of_age :
    let v := Value.plain [(.text "name", .text "Matt")]
    let truthy := Value.function (.custom "is_truthy")
    let choice := Value.plain [(.text "has", .list [.text "age"]), (.text "all", truthy)]
    let rules := Value.plain [(.text "any", choice)]
    let data := [("age", Value.int 35)]
    (∀ argument, ¬ rules.Asks .negation argument ∧ ¬ rules.Asks .properties argument) ∧
      validate Catalog.table { data := none } v rules = .ok true ∧
      validate Catalog.table { data := some data } v rules = .ok true ∧
      (evaluate Catalog.table { data := none } v rules).trace.map (·.result) = [false, true, true, true] ∧
      (evaluate Catalog.table { data := some data } v rules).trace.map (·.result) = [true, true] := by
  intro v truthy choice rules data
  have places : ∀ level node, rules.StandsAt level node → node ∈ [rules, choice, truthy] := by
    intro level node standing
    induction standing with
    | whole => simp
    | within _ step ih =>
      rcases List.mem_cons.mp ih with rfl | ih
      · have inside : rules.innerRules = [choice] := rfl
        rw [inside] at step
        simp [List.mem_singleton.mp step]
      rcases List.mem_pair.mp ih with rfl | rfl
      · have inside : choice.innerRules = [truthy] := rfl
        rw [inside] at step
        simp [List.mem_singleton.mp step]
      · have nothing : truthy.innerRules = [] := rfl
        simp [nothing] at step
  have names : ∀ name argument, rules.Asks name argument → name ∈ [RuleName.any, .has, .all] := by
    rintro name argument ⟨level, node, entries, key, standing, mapping, member, named⟩
    rcases List.mem_cons.mp (places level node standing) with rfl | place
    · cases mapping
      cases List.mem_singleton.mp member
      cases named
      simp
    rcases List.mem_pair.mp place with rfl | rfl
    · cases mapping
      rcases List.mem_pair.mp member with same | same <;> cases same <;> cases named <;> simp
    · cases mapping
  have straight : ∀ argument, ¬ rules.Asks .negation argument ∧ ¬ rules.Asks .properties argument :=
    fun argument => ⟨fun turned => by simpa using names _ _ turned,
      fun entered => by simpa using names _ _ entered⟩
  have steady : ∀ level f, rules.StandsAt level (.function f) → ∀ v,
      ((Catalog.table f).judge { data := none } v).outcome =
        ((Catalog.table f).judge { data := some data } v).outcome := by
    intro level f called v
    have isTruthy : f = .custom "is_truthy" := by
      simpa [rules, choice, truthy, Value.plain] using places level _ called
    rw [isTruthy]
    rfl
  have satisfied : validate Catalog.table { data := none } v rules = .ok true := rfl
  exact ⟨straight, satisfied,
    evaluate_fallback Catalog.table {} data v rules straight steady satisfied ⟨true, rfl⟩, rfl, rfl⟩

end Criteria
