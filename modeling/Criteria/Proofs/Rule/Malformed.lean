import Criteria.Proofs.Rule.Outcome
import Criteria.Rule.Catalog

set_option autoImplicit false
set_option relaxedAutoImplicit false

/-!
# Malformed rules within combinators

What is no rule fails, and so do `any`, `all` and `not` directly around it. Negations further out only
see that failure: each of them turns the verdict around, unless the rules nest too deeply.
-/

namespace Criteria

/-- The rules that hold a single rule and judge it against the same value. -/
inductive Combinator
  | any
  | all
  | negation
  deriving DecidableEq, Repr

namespace Combinator

def rule : Combinator → RuleName
  | .any => .any
  | .all => .all
  | .negation => .negation

/-- A rule within combinators, the first of them outermost. -/
def wrap : List Combinator → Value → Value
  | [], v => v
  | c :: rest, v => .plain [(.text c.rule.name, wrap rest v)]

/-- The levels that a malformed rule takes within combinators: one for each of them, and its own, which
it is not judged at when a negation stands directly around it. -/
def levels (chain : List Combinator) : Nat :=
  if chain.getLast? = some .negation then chain.length else chain.length + 1

def turned (chain : List Combinator) : Bool := chain.dropLast.count .negation % 2 == 1

theorem levels_pos (chain : List Combinator) : 0 < levels chain := by
  cases chain with
  | nil => simp [levels]
  | cons c rest =>
    unfold levels
    split <;> simp

theorem levels_cons (c : Combinator) (rest : List Combinator)
    (judged : c = .negation → rest ≠ []) : levels (c :: rest) = levels rest + 1 := by
  cases rest with
  | nil => cases c <;> simp_all [levels]
  | cons next rest =>
    simp only [levels, List.getLast?_cons_cons, List.length_cons]
    split <;> rfl

theorem turned_cons (c : Combinator) (rest : List Combinator) (straight : c ≠ .negation) :
    turned (c :: rest) = turned rest := by
  cases rest with
  | nil => rfl
  | cons next rest =>
    rw [turned, List.dropLast_cons_of_ne_nil (by simp), List.count_cons_of_ne straight]
    rfl

theorem turned_negation {rest : List Combinator} (inside : rest ≠ []) :
    turned (.negation :: rest) = !turned rest := by
  rw [turned, turned, List.dropLast_cons_of_ne_nil inside, List.count_cons_self]
  rcases Nat.mod_two_eq_zero_or_one (rest.dropLast.count .negation) with even | odd
  · have next : (rest.dropLast.count Combinator.negation + 1) % 2 = 1 := by omega
    rw [next, even]
    rfl
  · have next : (rest.dropLast.count Combinator.negation + 1) % 2 = 0 := by omega
    rw [next, odd]
    rfl

theorem isRule_wrap {chain : List Combinator} (inside : chain ≠ []) (v : Value) :
    (wrap chain v).IsRule := by
  cases chain with
  | nil => exact absurd rfl inside
  | cons c rest => exact .inl ⟨_, rfl⟩

end Combinator

namespace Evaluation

open Combinator

variable {table : PredicateTable} {o : Options} {mode : Mode} {path : String} {v x : Value}

/-- A malformed rule within combinators stops the evaluation where there are too few levels for it, and
is otherwise answered by how its failure is turned around. -/
theorem outcome_judge_wrap (malformed : ¬ x.IsRule) (chain : List Combinator) (left : Nat) :
    (judge table o left v (.ofValue (wrap chain x)) mode path).outcome =
      if left < levels chain then .error .tooDeep else .ok (turned chain) := by
  induction chain generalizing left mode path with
  | nil =>
    cases left with
    | zero => rfl
    | succ left => simp [wrap, RuleNode.ofValue_of_not_isRule malformed, judge_succ, levels, turned]
  | cons c rest ih =>
    cases left with
    | zero => simp [levels_pos]
    | succ left =>
      rw [wrap, outcome_judge_single]
      cases c with
      | any =>
        simp only [levels_cons .any rest (by simp), turned_cons .any rest (by simp),
          Nat.add_lt_add_iff_right]
        exact ih left
      | all =>
        simp only [levels_cons .all rest (by simp), turned_cons .all rest (by simp),
          Nat.add_lt_add_iff_right]
        exact ih left
      | negation =>
        simp only [Combinator.rule, judgeRule]
        -- Directly around it the negation fails without judging it, so no level is taken for it.
        by_cases direct : rest = []
        · subst direct
          simp only [wrap, judgeNegation, RuleNode.ofValue_of_not_isRule malformed]
          simp [levels, turned]
        · simp only [levels_cons .negation rest fun _ => direct, turned_negation direct,
            Nat.add_lt_add_iff_right, judgeNegation_of_isRule (isRule_wrap direct x),
            Run.outcome_bind, ih left]
          split <;> rfl

end Evaluation

/-- A malformed rule within combinators is not satisfied, unless the rules nest within the limit and an
odd number of negations stands above the innermost combinator. -/
theorem validate_wrap_malformed (table : PredicateTable) (o : Options) (v x : Value)
    (chain : List Combinator) (malformed : ¬ x.IsRule) :
    validate table o v (Combinator.wrap chain x) =
      .ok (decide (Combinator.levels chain ≤ o.maxDepth + 1) && Combinator.turned chain) := by
  have outcome : (evaluate table o v (Combinator.wrap chain x)).outcome =
      if o.maxDepth + 1 < Combinator.levels chain then .error .tooDeep
      else .ok (Combinator.turned chain) :=
    Evaluation.outcome_judge_wrap malformed chain (o.maxDepth + 1)
  rw [validate, Run.verdict, outcome]
  by_cases deep : o.maxDepth + 1 < Combinator.levels chain
  · have beyond : ¬ Combinator.levels chain ≤ o.maxDepth + 1 := by omega
    simp [deep, beyond]
  · have within : Combinator.levels chain ≤ o.maxDepth + 1 := by omega
    simp [deep, within]

/-- Under two negations and a limit of one level nothing malformed is satisfied, with more levels it is. -/
theorem validate_wrap_malformed_of_two_negations :
    let chain := [Combinator.negation, .any, .negation]
    ¬ (Value.int 5).IsRule ∧
      validate Catalog.table { maxDepth := 1 } .null (Combinator.wrap chain (.int 5)) = .ok false ∧
      validate Catalog.table { maxDepth := 2 } .null (Combinator.wrap chain (.int 5)) = .ok true := by
  intro chain
  have malformed : ¬ (Value.int 5).IsRule := by
    rintro (⟨entries, mapping⟩ | ⟨f, function⟩)
    · simp [Value.entries?, Value.untie, Value.int] at mapping
    · simp [Value.int] at function
  refine ⟨malformed, ?_, ?_⟩
  · rw [validate_wrap_malformed Catalog.table { maxDepth := 1 } .null (.int 5) chain malformed]
    rfl
  · rw [validate_wrap_malformed Catalog.table { maxDepth := 2 } .null (.int 5) chain malformed]
    rfl

/-- A malformed rule under `all` becomes a pass under a negation of that. -/
theorem not_validate_wrap_malformed_eq_false :
    ¬ ∀ (o : Options) (v x : Value) (chain : List Combinator), ¬ x.IsRule →
      validate Catalog.table o v (Combinator.wrap chain x) = .ok false := by
  intro never
  have malformed : ¬ Value.null.IsRule := by
    rintro (⟨entries, mapping⟩ | ⟨f, function⟩)
    · simp [Value.entries?, Value.untie] at mapping
    · simp at function
  have fails := never {} .null .null [.negation, .all] malformed
  have passes : validate Catalog.table {} .null (Combinator.wrap [.negation, .all] .null) =
      .ok true := rfl
  simp [passes] at fails

end Criteria
