import Criteria.Proofs.Path.Resolution
import Criteria.Proofs.Rule.Displacement
import Criteria.Proofs.Rule.Expectation

set_option autoImplicit false
set_option relaxedAutoImplicit false

/-!
# Properties of properties

Where there is no fallback, a property of a property can be asked for by one path with a dot or by one `match`
within another. The second way takes one level more, and neither minds that a property is absent.
-/

namespace Criteria

def Value.ofProperty (p : String) (rules : Value) : Value :=
  .plain [(.text "match", .plain [(.text p, rules)])]

namespace Evaluation

variable {table : PredicateTable} {o : Options} {mode : Mode} {path place p : String} {v rules : Value}
  {left m : Nat}

theorem outcome_judge_ofProperty :
    (judge table o (left + 1) v (.ofValue (.ofProperty p rules)) mode path).outcome =
      (Path.resolve v (.text p) o.fallback).mapError .fault >>= fun found =>
        (judge table o left found (.ofValue rules) .default (rulePath path (.text "match") ++ "." ++ p)).outcome := by
  calc
    _ = (judgeProperties o (judge table o left) v (rulePath path (.text "match")) [(.text p, rules)]).outcome :=
      outcome_judge_single .properties (.plain [(.text p, rules)]) left
    _ = (judgeProperty o (judge table o left) v (rulePath path (.text "match")) (.text p, rules)).outcome :=
      outcome_judgeProperties_singleton (.text p, rules)
    _ = _ := by
      rw [judgeProperty, Run.outcome_bind, Run.outcome_ofExcept]
      rfl

theorem outcome_judge_below (within : left ≤ m + 1)
    (steady : ∀ level f, rules.StandsAt level (.function f) → ∀ v,
      (table f).judge { o with maxDepth := m + 1 } v = (table f).judge { o with maxDepth := m } v)
    (path_ne : path ≠ "") :
    (judge table { o with maxDepth := m + 1 } left v (.ofValue rules) mode (below place path)).outcome =
      (judge table { o with maxDepth := m } left v (.ofValue rules) mode path).outcome := by
  rw [displaced_judge within steady .whole path_ne]
  rfl

end Evaluation

open Evaluation

/-- Paths joined by a dot are followed one after the other, to the same value or the same fault. So without a
fallback rules for a property of a property come to the same by one path with a dot and, with one level more, by
one `match` within another. -/
theorem evaluate_joined_path (v : Value) (p q : String) (p_ne : p ≠ "") (q_ne : q ≠ "") :
    Path.select v (.text (p ++ "." ++ q)) =
      (Path.select v (.text p) >>= fun found => Path.select found (.text q)) ∧
    ∀ (table : PredicateTable) (o : Options) (rules : Value) (m : Nat), 1 ≤ m → o.data = none →
      (∀ level f, rules.StandsAt level (.function f) → ∀ v limit limit',
        (table f).judge { o with maxDepth := limit } v = (table f).judge { o with maxDepth := limit' } v) →
      let run (limit : Nat) (rules : Value) := evaluate table { o with maxDepth := limit } v rules
      (run m (.ofProperty (p ++ "." ++ q) rules)).outcome =
        (run (m + 1) (.ofProperty p (.ofProperty q rules))).outcome ∧
      (run m (.ofProperty (p ++ "." ++ q) rules)).verdict =
        (run (m + 1) (.ofProperty p (.ofProperty q rules))).verdict := by
  have joined := Path.select_append v p_ne q_ne
  refine ⟨joined, fun table o rules m levels noData steady => ?_⟩
  intro run
  obtain ⟨k, rfl⟩ : ∃ k, m = k + 1 := ⟨m - 1, by omega⟩
  have noFallback (limit : Nat) : ({ o with maxDepth := limit } : Options).fallback = none := by
    simp only [Options.fallback, noData, Option.map_none]
  -- On either way the rules are judged with the same levels left, as they would be at the second path alone.
  have alone (found : Value) : (judge table { o with maxDepth := k + 1 } (k + 1) found (.ofValue rules) .default
      (rulePath "" (.text "match") ++ "." ++ (p ++ "." ++ q))).outcome =
        (judge table { o with maxDepth := k } (k + 1) found (.ofValue rules) .default q).outcome := by
    have path : rulePath "" (.text "match") ++ "." ++ (p ++ "." ++ q) = below ("match." ++ p) q := by
      simp [rulePath, Value.display, below, String.append_assoc]
    rw [path]
    exact outcome_judge_below (Nat.le_refl _) (fun level f standing v => steady level f standing v _ _) q_ne
  have within (found : Value) : (judge table { o with maxDepth := k + 2 } (k + 1) found (.ofValue rules) .default
      (rulePath (rulePath "" (.text "match") ++ "." ++ p) (.text "match") ++ "." ++ q)).outcome =
        (judge table { o with maxDepth := k } (k + 1) found (.ofValue rules) .default q).outcome := by
    have path : rulePath (rulePath "" (.text "match") ++ "." ++ p) (.text "match") ++ "." ++ q =
        below ("match." ++ p) (below "match" q) := by
      have outside : rulePath "" (.text "match") ++ "." ++ p = "match." ++ p := by
        simp [rulePath, Value.display]
      have inside : rulePath ("match." ++ p) (.text "match") = below ("match." ++ p) "match" := by
        simp [rulePath, Value.display, below]
      rw [outside, inside, ← below_append]
      rfl
    have longer : below "match" q ≠ "" := by simp [below]
    rw [path, outcome_judge_below (Nat.le_succ _) (fun level f standing v => steady level f standing v _ _) longer]
    exact outcome_judge_below (Nat.le_refl _) (fun level f standing v => steady level f standing v _ _) q_ne
  have outcomes : (run (k + 1) (.ofProperty (p ++ "." ++ q) rules)).outcome =
      (run (k + 1 + 1) (.ofProperty p (.ofProperty q rules))).outcome := by
    simp only [run, evaluate, outcome_judge_ofProperty, noFallback, Path.resolve_none, joined, alone, within]
    cases Path.select v (.text p) with
    | error f => rfl
    | ok found => rfl
  exact ⟨outcomes, by rw [Run.verdict, Run.verdict, outcomes]⟩

/-- An age is asked of an account that is not there, and the type of the second tag, which is. -/
theorem evaluate_joined_path_of_absent_and_present :
    let table : PredicateTable := fun _ => Catalog.always true
    let v := Value.plain [(.text "tags", .list [.int 3, .text "new"])]
    let run (limit : Nat) (rules : Value) := evaluate table { maxDepth := limit } v rules
    let missing := Value.plain [(.text "type", .text "undefined")]
    let text := Value.plain [(.text "type", .text "string")]
    "account" ≠ "" ∧ "age" ≠ "" ∧ "tags" ≠ "" ∧ "1" ≠ "" ∧
      (run 1 (.ofProperty "account.age" missing)).outcome = .ok true ∧
      (run 1 (.ofProperty "account.age" missing)).outcome =
        (run 2 (.ofProperty "account" (.ofProperty "age" missing))).outcome ∧
      Path.select v (.text "tags") = .ok (.list [.int 3, .text "new"]) ∧
      Path.select v (.text "tags.1") = .ok (.text "new") ∧
      (run 1 (.ofProperty "tags.1" text)).outcome = .ok true ∧
      (run 1 (.ofProperty "tags.1" text)).outcome =
        (run 2 (.ofProperty "tags" (.ofProperty "1" text))).outcome := by
  intro table v run missing text
  have account : "account" ≠ "" := by decide
  have age : "age" ≠ "" := by decide
  have tags : "tags" ≠ "" := by decide
  have second : "1" ≠ "" := by decide
  have absent := (evaluate_joined_path v "account" "age" account age).2 table {} missing 1 (by decide) rfl
    fun _ _ _ _ _ _ => rfl
  have present := (evaluate_joined_path v "tags" "1" tags second).2 table {} text 1 (by decide) rfl
    fun _ _ _ _ _ _ => rfl
  exact ⟨account, age, tags, second, rfl, absent.1, rfl, rfl, rfl, present.1⟩

end Criteria
