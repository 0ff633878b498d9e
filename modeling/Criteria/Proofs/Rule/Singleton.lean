import Criteria.Proofs.Rule.Expectation
import Criteria.Proofs.Rule.Malformed

set_option autoImplicit false
set_option relaxedAutoImplicit false

/-!
# Single expectations

What is expected at a path can be written on its own or as the only item of a list. Both are looked for in
the same way: what is no collection is a collection of itself. Only nothing is not. Where a path leads to
nothing and nothing is expected there, the value alone is met, and the list of it is not.
-/

namespace Criteria

namespace Value

variable {v e : Value}

theorem kind_eq_null_iff : v.kind = .null ↔ v = .null := by
  constructor
  · intro kind
    unfold Value.kind at kind
    split at kind <;> simp only [reduceCtorEq] at kind
    rename_i untied
    exact eq_of_untie untied (by simp) (by simp) (by simp)
  · rintro rfl
    rfl

theorem members?_eq_none (single : v.kind.isCollection = false) : v.members? = none := by
  unfold kind at single
  unfold members?
  cases shown : v.untie with
  | array form items => simp [shown, Kind.isCollection] at single
  | set frozen items => simp [shown, Kind.isCollection] at single
  | _ => rfl

theorem elements_of_single (single : v.kind.isCollection = false) (defined : v ≠ .undefined)
    (something : v ≠ .null) : v.elements = [v] := by
  unfold elements
  rw [members?_eq_none single]
  cases v with
  | undefined => exact absurd rfl defined
  | null => exact absurd rfl something
  | _ => rfl

theorem isAmong_singleton (v e : Value) : isAmong [v] e = v.strictEquals e := by
  rw [isAmong, Search.anyM_singleton]

theorem strictEquals_of_kind_ne (differ : v.kind ≠ e.kind) : v.strictEquals e = .ok false := by
  simp [strictEquals, differ]

theorem meets_list_singleton (defined : v ≠ .undefined) (needsAll : Bool) :
    v.meets (.list [e]) needsAll = isAmong v.elements e := by
  have present : v.isUndefined = false :=
    Bool.eq_false_iff.mpr fun absent => defined (isUndefined_iff.mp absent)
  rw [meets_of_isCollection rfl fun _ => present]
  cases needsAll with
  | true => exact Search.allM_singleton (isAmong v.elements) e
  | false => exact Search.anyM_singleton (isAmong v.elements) e

theorem meets_singleton (scalar : e.kind.isCollection = false) (other : v ≠ .null ∨ e ≠ .null)
    (needsAll : Bool) : v.meets (.list [e]) needsAll = v.meets e needsAll := by
  by_cases defined : v = .undefined
  · rw [defined]
    rfl
  have present : v.isUndefined = false := Bool.eq_false_iff.mpr fun absent => defined (isUndefined_iff.mp absent)
  have single : v.meets e needsAll = (do
      if ← v.strictEquals e then return true
      if v.kind.isCollection then isAmong v.elements e else return false) := by
    simp [meets, present, scalar]
  rw [meets_list_singleton defined, single]
  cases collection : v.kind.isCollection with
  | true =>
    have differ : v.kind ≠ e.kind := fun same => by simp [same, scalar] at collection
    rw [strictEquals_of_kind_ne differ]
    rfl
  | false =>
    by_cases nothing : v = .null
    · subst nothing
      have differ : Value.null.kind ≠ e.kind := by
        intro same
        exact (other.resolve_left fun distinct => distinct rfl) (kind_eq_null_iff.mp same.symm)
      rw [strictEquals_of_kind_ne differ]
      rfl
    · rw [elements_of_single collection defined nothing, isAmong_singleton]
      cases v.strictEquals e with
      | error f => rfl
      | ok equal => cases equal <;> rfl

theorem meets_null (needsAll : Bool) :
    null.meets .null needsAll = .ok true ∧ null.meets (.list [.null]) needsAll = .ok false := by
  constructor
  · have equal : null.strictEquals .null = .ok true := by simp [strictEquals, kind, untie, same]
    have scalar : null.kind.isCollection = false := rfl
    simp [meets, isUndefined, scalar, equal, bind, Except.bind, pure, Except.pure]
  · rw [meets_list_singleton (by simp)]
    rfl

def expecting (p : String) (e : Value) : Value := .plain [(.text "has", .plain [(.text p, e)])]

end Value

namespace Evaluation

variable {table : PredicateTable} {o : Options} {v e x y : Value} {p : String}

theorem outcome_judge_expecting (left : Nat) (mode : Mode) (path : String) :
    (judge table o (left + 1) v (.ofValue (.expecting p e)) mode path).outcome =
      (Path.resolve v (.text p) o.fallback >>= fun found => found.meets e (mode == .all)).mapError .fault := by
  have single : (judge table o (left + 1) v (.ofValue (.expecting p e)) mode path).outcome =
      ([(.text p, e)].allM (meetsAt o v (mode == .all))).mapError .fault := outcome_judge_has rfl
  rw [single, Search.allM_singleton]
  rfl

theorem outcome_judge_expecting_singleton (scalar : e.kind.isCollection = false)
    (other : Path.resolve v (.text p) o.fallback ≠ .ok .null ∨ e ≠ .null) (left : Nat) (mode : Mode)
    (path : String) :
    (judge table o left v (.ofValue (.expecting p e)) mode path).outcome =
      (judge table o left v (.ofValue (.expecting p (.list [e]))) mode path).outcome := by
  cases left with
  | zero => rfl
  | succ left =>
    rw [outcome_judge_expecting, outcome_judge_expecting]
    cases resolved : Path.resolve v (.text p) o.fallback with
    | error f => rfl
    | ok found =>
      have distinct : found ≠ .null ∨ e ≠ .null :=
        other.imp_left fun elsewhere nothing => elsewhere (by rw [resolved, nothing])
      exact congrArg (Except.mapError Stop.fault) (Value.meets_singleton scalar distinct (mode == .all)).symm

theorem outcome_judge_wrap_congr (rule : x.IsRule) (rule' : y.IsRule)
    (same : ∀ left mode path, (judge table o left v (.ofValue x) mode path).outcome =
      (judge table o left v (.ofValue y) mode path).outcome)
    (chain : List Combinator) (left : Nat) (mode : Mode) (path : String) :
    (judge table o left v (.ofValue (Combinator.wrap chain x)) mode path).outcome =
      (judge table o left v (.ofValue (Combinator.wrap chain y)) mode path).outcome := by
  have isRule {z : Value} (rule : z.IsRule) (chain : List Combinator) : (Combinator.wrap chain z).IsRule := by
    cases chain with
    | nil => exact rule
    | cons c rest => exact Combinator.isRule_wrap (List.cons_ne_nil c rest) z
  induction chain generalizing left mode path with
  | nil => exact same left mode path
  | cons c rest ih =>
    cases left with
    | zero => rfl
    | succ left =>
      rw [Combinator.wrap, Combinator.wrap, outcome_judge_single, outcome_judge_single]
      cases c with
      | any => exact ih left .any _
      | all => exact ih left .all _
      | negation =>
        simp only [Combinator.rule, judgeRule, judgeNegation_of_isRule (isRule rule rest),
          judgeNegation_of_isRule (isRule rule' rest), Run.outcome_bind, ih left]

theorem outcome_judge_wrap_straight {b : Bool}
    (answer : ∀ left mode path, (judge table o (left + 1) v (.ofValue x) mode path).outcome = .ok b)
    (chain : List Combinator) (straight : .negation ∉ chain) (left : Nat) (levels : chain.length < left)
    (mode : Mode) (path : String) :
    (judge table o left v (.ofValue (Combinator.wrap chain x)) mode path).outcome = .ok b := by
  cases left with
  | zero => simp at levels
  | succ left =>
    induction chain generalizing left mode path with
    | nil => exact answer left mode path
    | cons c rest ih =>
      rw [List.mem_cons, not_or] at straight
      cases left with
      | zero => simp at levels
      | succ left =>
        have inside : rest.length < left + 1 := by simpa using levels
        rw [Combinator.wrap, outcome_judge_single]
        cases c with
        | any => exact ih straight.2 .any _ left inside
        | all => exact ih straight.2 .all _ left inside
        | negation => exact absurd rfl straight.1

end Evaluation

/-- What is expected at a path comes to the same on its own and as the only item of a list, in all positions,
unless nothing is expected where the path leads to nothing: only on its own that is met. -/
theorem evaluate_expecting_singleton (table : PredicateTable) (o : Options) (v e : Value) (p : String)
    (scalar : e.kind.isCollection = false) (chain : List Combinator) :
    (Path.resolve v (.text p) o.fallback ≠ .ok .null ∨ e ≠ .null →
      (evaluate table o v (Combinator.wrap chain (.expecting p e))).outcome =
        (evaluate table o v (Combinator.wrap chain (.expecting p (.list [e])))).outcome) ∧
    (Path.resolve v (.text p) o.fallback = .ok .null → e = .null →
      .negation ∉ chain → chain.length ≤ o.maxDepth →
        (evaluate table o v (Combinator.wrap chain (.expecting p e))).outcome = .ok true ∧
          (evaluate table o v (Combinator.wrap chain (.expecting p (.list [e])))).outcome = .ok false) := by
  constructor
  · intro other
    exact Evaluation.outcome_judge_wrap_congr (.inl ⟨_, rfl⟩) (.inl ⟨_, rfl⟩)
      (Evaluation.outcome_judge_expecting_singleton scalar other) chain (o.maxDepth + 1) .default ""
  · rintro resolved rfl straight levels
    have within : chain.length < o.maxDepth + 1 := by omega
    have asked {expected : Value} {b : Bool} (met : ∀ needsAll, Value.null.meets expected needsAll = .ok b)
        (left : Nat) (mode : Mode) (path : String) :
        (Evaluation.judge table o (left + 1) v (.ofValue (.expecting p expected)) mode path).outcome = .ok b := by
      rw [Evaluation.outcome_judge_expecting, resolved]
      exact congrArg (Except.mapError Stop.fault) (met (mode == .all))
    constructor
    · exact Evaluation.outcome_judge_wrap_straight (asked fun needsAll => (Value.meets_null needsAll).1) chain
        straight _ within .default ""
    · exact Evaluation.outcome_judge_wrap_straight (asked fun needsAll => (Value.meets_null needsAll).2) chain
        straight _ within .default ""

/-- A tag among tags, and nothing where there is nothing. -/
theorem evaluate_expecting_singleton_of_tag :
    let v : Value := .plain [(.text "tags", .list [.text "a", .text "b"]), (.text "gone", .null)]
    let outcome (rules : Value) := (evaluate Catalog.table {} v (Combinator.wrap [.all] rules)).outcome
    (Value.text "b").kind.isCollection = false ∧ Value.text "b" ≠ .null ∧
      outcome (.expecting "tags" (.text "b")) = outcome (.expecting "tags" (.list [.text "b"])) ∧
      (outcome (.expecting "tags" (.text "b"))).toOption = some true ∧
      Path.resolve v (.text "gone") (Options.fallback {}) = .ok .null ∧
      outcome (.expecting "gone" .null) = .ok true ∧ outcome (.expecting "gone" (.list [.null])) = .ok false := by
  intro v outcome
  have scalar : (Value.text "b").kind.isCollection = false := rfl
  have distinct : Value.text "b" ≠ .null := by simp
  have alike := (evaluate_expecting_singleton Catalog.table {} v (.text "b") "tags" scalar [.all]).1 (.inr distinct)
  have holds : (outcome (.expecting "tags" (.text "b"))).toOption = some true := by
    simp only [outcome, v]
    decide +kernel
  have found : Path.resolve v (.text "gone") (Options.fallback {}) = .ok .null := rfl
  obtain ⟨alone, listed⟩ := (evaluate_expecting_singleton Catalog.table {} v .null "gone" rfl [.all]).2
    found rfl (by decide) (by decide)
  exact ⟨scalar, distinct, alike, holds, found, alone, listed⟩

/-- A property that is nothing is not in the list of nothing. -/
theorem not_validate_expecting_singleton :
    ¬ ∀ (o : Options) (v e : Value) (p : String), e.kind.isCollection = false →
      ∀ chain ∈ [[], [Combinator.any], [Combinator.all]],
        validate Catalog.table o v (Combinator.wrap chain (.expecting p e)) =
          validate Catalog.table o v (Combinator.wrap chain (.expecting p (.list [e]))) := by
  intro alike
  let v : Value := .plain [(.text "a", .null)]
  have alone : (validate Catalog.table {} v (.expecting "a" .null)).toOption = some true := by
    simp only [v]
    decide +kernel
  have listed : (validate Catalog.table {} v (.expecting "a" (.list [.null]))).toOption = some false := by
    simp only [v]
    decide +kernel
  have same : validate Catalog.table {} v (.expecting "a" .null) =
      validate Catalog.table {} v (.expecting "a" (.list [.null])) :=
    alike {} v .null "a" rfl [] (by simp)
  rw [same, listed] at alone
  simp at alone

end Criteria
