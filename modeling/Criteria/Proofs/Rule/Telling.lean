import Criteria.Proofs.Rule.Position
import Criteria.Rule.Report
import Mathlib.Data.List.DropRight

set_option autoImplicit false
set_option relaxedAutoImplicit false

/-!
# What a trace tells

A trace lists judgements after those that they rest on. What a judgement rests on can be read off the
depths alone: of the judgements that stand directly before it and deeper, those one level deeper are
its children. `Told` says how such a trace is put together, and that each result agrees with its
children.
-/

namespace Criteria

namespace Judgement

/-- The longest run of judgements directly before an index that stand deeper than the given depth. -/
def block (judgements : List Judgement) (index : Nat) (depth : Int) : List Judgement :=
  (judgements.take index).rtakeWhile fun j => depth < j.depth

/-- The judgements that stand at a depth. -/
def atDepth (depth : Int) (judgements : List Judgement) : List Judgement :=
  judgements.filter fun j => j.depth == depth

/-- The judgements one level deeper than the one at an index that directly led to it. -/
def children (judgements : List Judgement) (index : Nat) (depth : Int) : List Judgement :=
  atDepth (depth + 1) (block judgements index depth)

/-- A result agrees with the judgements that it rests on, by the name of the rule. -/
structure AccountedBy (j : Judgement) (children : List Judgement) : Prop where
  any : j.rule = "any" → j.result = children.any (·.result)
  all : j.rule = "all" →
    (j.argument.IsRule → j.result = children.all (·.result)) ∧
      (¬ j.argument.IsRule → j.result = false ∧ children = [])
  negation : j.rule = "not" →
    (j.argument.IsRule → j.result = !children.all (·.result)) ∧
      (¬ j.argument.IsRule → j.result = false ∧ children = [])
  properties : j.rule = "match" →
    (j.result = true ↔ ∃ entries, j.argument.entries? = some entries ∧
      (∀ e ∈ entries, e.2.IsRule) ∧ ∀ child ∈ children, child.result = true)

end Judgement

/-- A trace that ends each of its judgements at a depth with one that accounts for what was told
one level deeper just before; the second list holds the judgements at that depth. -/
inductive Told : Int → List Judgement → List Judgement → Prop
  | nil (depth : Int) : Told depth [] []
  | snoc {depth : Int} {before roots inner children : List Judgement} {j : Judgement} :
      Told depth before roots → Told (depth + 1) inner children → j.depth = depth →
      j.AccountedBy children → Told depth (before ++ (inner ++ [j])) (roots ++ [j])

namespace Told

open Judgement

variable {depth : Int} {judgements roots : List Judgement}

theorem append {later laterRoots : List Judgement} (first : Told depth judgements roots)
    (second : Told depth later laterRoots) :
    Told depth (judgements ++ later) (roots ++ laterRoots) := by
  induction second with
  | nil => simpa using first
  | snoc before inner level accounted ih =>
    simpa only [List.append_assoc] using Told.snoc (ih first) inner level accounted

theorem single {j : Judgement} {inner children : List Judgement}
    (told : Told (depth + 1) inner children) (level : j.depth = depth) (accounted : j.AccountedBy children) :
    Told depth (inner ++ [j]) [j] := by
  simpa using Told.snoc (.nil depth) told level accounted

theorem eq_nil (told : Told depth judgements []) : judgements = [] := by
  generalize none : [] = roots at told
  cases told with
  | nil => rfl
  | snoc => simp at none

theorem depth_le (told : Told depth judgements roots) : ∀ j ∈ judgements, depth ≤ j.depth := by
  induction told with
  | nil => simp
  | snoc before inner level accounted ihBefore ihInner =>
    intro j member
    rcases List.mem_append.mp member with earlier | later
    · exact ihBefore j earlier
    · rcases List.mem_append.mp later with within | last
      · have deeper := ihInner j within
        omega
      · rw [List.mem_singleton.mp last]
        omega

theorem atDepth_eq (told : Told depth judgements roots) : atDepth depth judgements = roots := by
  induction told with
  | nil => rfl
  | @snoc depth before roots inner children j earlier within level accounted ihBefore ihInner =>
    have none : inner.filter (fun j => j.depth == depth) = [] := by
      rw [List.filter_eq_nil_iff]
      intro i member same
      have deeper := within.depth_le i member
      have equal : i.depth = depth := by simpa using same
      omega
    simp only [atDepth] at ihBefore
    simp [atDepth, ihBefore, none, level]

theorem depth_of_getLast? (told : Told depth judgements roots) {j : Judgement}
    (last : judgements.getLast? = some j) : j.depth = depth := by
  cases told with
  | nil => simp at last
  | snoc before inner level accounted =>
    have same := by simpa using last
    rw [← same, level]

private theorem rtakeWhile_append_of_last {p : Judgement → Bool} {before : List Judgement}
    (stops : ∀ j, before.getLast? = some j → ¬ p j) (inner : List Judgement) :
    (before ++ inner).rtakeWhile p = inner.rtakeWhile p := by
  induction inner using List.reverseRecOn with
  | nil =>
    rw [List.append_nil, List.rtakeWhile_nil, List.rtakeWhile_eq_nil_iff]
    intro nonempty
    exact stops _ (List.getLast?_eq_some_getLast nonempty)
  | append_singleton inner j ih =>
    rw [← List.append_assoc]
    by_cases belongs : p j
    · rw [List.rtakeWhile_concat_pos _ _ _ belongs, List.rtakeWhile_concat_pos _ _ _ belongs, ih]
    · rw [List.rtakeWhile_concat_neg _ _ _ belongs, List.rtakeWhile_concat_neg _ _ _ belongs]

theorem children_append_of_lt {judgements : List Judgement} {index : Nat} {depth : Int}
    (inside : index < judgements.length) (rest : List Judgement) :
    children (judgements ++ rest) index depth = children judgements index depth := by
  unfold children block
  rw [List.take_append_of_le_length (Nat.le_of_lt inside)]

theorem children_append {level : Int} (told : Told depth judgements roots) (deep : depth ≤ level)
    (rest : List Judgement) (k : Nat) :
    children (judgements ++ rest) (judgements.length + k) level = children rest k level := by
  unfold children block
  rw [List.take_length_add_append, rtakeWhile_append_of_last]
  intro j last
  have shallow := told.depth_of_getLast? last
  simpa [shallow] using deep

theorem children_length (told : Told (depth + 1) judgements roots) (rest : List Judgement) :
    children (judgements ++ rest) judgements.length depth = roots := by
  have all : judgements.rtakeWhile (fun j => depth < j.depth) = judgements := by
    rw [List.rtakeWhile_eq_self_iff]
    intro i member
    have deeper := told.depth_le i member
    have below : depth < i.depth := by omega
    simpa using below
  unfold children block
  rw [List.take_left, all]
  exact told.atDepth_eq

theorem accountedBy_children (told : Told depth judgements roots) :
    ∀ (i : Nat) (j : Judgement), judgements[i]? = some j →
      j.AccountedBy (children judgements i j.depth) := by
  induction told with
  | nil => simp
  | @snoc depth before roots inner found last earlier within level accounted ihBefore ihInner =>
    intro i j position
    -- The index falls into what came before, into what was told one level deeper, or on the end.
    by_cases inBefore : i < before.length
    · rw [List.getElem?_append_left inBefore] at position
      rw [children_append_of_lt inBefore]
      exact ihBefore i j position
    obtain ⟨k, rfl⟩ := Nat.exists_eq_add_of_le (Nat.not_lt.mp inBefore)
    rw [List.getElem?_append_right (Nat.le_add_right _ _), Nat.add_sub_cancel_left] at position
    by_cases inInner : k < inner.length
    · rw [List.getElem?_append_left inInner] at position
      have deeper := within.depth_le j (List.mem_of_getElem? position)
      rw [earlier.children_append (by omega), children_append_of_lt inInner]
      exact ihInner k j position
    · rw [List.getElem?_append_right (Nat.not_lt.mp inInner), List.getElem?_singleton] at position
      split at position
      · rename_i atEnd
        have same : last = j := Option.some.inj position
        have final : k = inner.length := by omega
        rw [← same, final, earlier.children_append (by omega), level, within.children_length]
        exact accounted
      · simp at position

end Told

end Criteria
