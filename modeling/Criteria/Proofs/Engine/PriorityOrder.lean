import Criteria.Engine
import Mathlib.Data.List.Sort

set_option autoImplicit false
set_option relaxedAutoImplicit false

/-!
# Descending priority

Where priorities are integers, rules are tried in the one order that descends and keeps rules of equal
priority as they come.
-/

namespace Criteria

/-- A list in descending order of rank, in which items of equal rank stand as they do in another list. -/
structure Descending {α : Type} (rank : α → Int) (items order : List α) : Prop where
  perm : order.Perm items
  sorted : order.Pairwise fun a b => rank b ≤ rank a
  stable : ∀ n, order.filter (rank · == n) = items.filter (rank · == n)

/-- The first item of the highest rank, or nothing where there are no items. -/
def IsHighest {α : Type} (rank : α → Int) (items highest : List α) : Prop :=
  highest = [] ∧ items = [] ∨ ∃ before a after, highest = [a] ∧ items = before ++ a :: after ∧
    (∀ b ∈ before, rank b < rank a) ∧ ∀ b ∈ after, rank b ≤ rank a

namespace Descending

variable {α : Type} {rank : α → Int} {items order order' : List α}

theorem insertionSort (rank : α → Int) (items : List α) :
    Descending rank items (items.insertionSort fun a b => rank b ≤ rank a) := by
  have total : Std.Total fun a b : α => rank b ≤ rank a := ⟨fun a b => Int.le_total (rank b) (rank a)⟩
  have trans : IsTrans α fun a b => rank b ≤ rank a := ⟨fun a b c first later => later.trans first⟩
  have perm := List.perm_insertionSort (fun a b => rank b ≤ rank a) items
  refine ⟨perm, List.pairwise_insertionSort _ items, fun n => ?_⟩
  -- The items of one rank are a sorted part of the list, so they are found in the sorted list as well.
  have equals : (items.filter (rank · == n)).Pairwise fun a b => rank b ≤ rank a := by
    rw [List.pairwise_filter]
    refine List.pairwise_of_forall fun a b first later => ?_
    have same : rank b = rank a := (eq_of_beq later).trans (eq_of_beq first).symm
    exact le_of_eq same
  have part := (List.sublist_insertionSort equals List.filter_sublist).filter (rank · == n)
  rw [List.filter_filter] at part
  simp only [Bool.and_self] at part
  exact (part.eq_of_length (perm.filter _).length_eq.symm).symm

theorem filter (descending : Descending rank items order) (p : α → Bool) :
    Descending rank (items.filter p) (order.filter p) := by
  refine ⟨descending.perm.filter p, descending.sorted.filter p, fun n => ?_⟩
  have same := congrArg (List.filter p) (descending.stable n)
  simpa only [List.filter_filter, Bool.and_comm] using same

theorem rank_le_of_cons {a : α} {rest : List α} (descending : Descending rank items (a :: rest)) :
    ∀ b ∈ items, rank b ≤ rank a := by
  intro b member
  rcases List.mem_cons.mp (descending.perm.mem_iff.mpr member) with rfl | later
  · exact le_refl _
  · exact (List.pairwise_cons.mp descending.sorted).1 b later

theorem exists_of_cons {a : α} {rest : List α} (descending : Descending rank items (a :: rest)) :
    ∃ before after, items = before ++ a :: after ∧ (∀ b ∈ before, rank b < rank a) ∧
      ∀ b ∈ after, rank b ≤ rank a := by
  have highest := descending.rank_le_of_cons
  have equals := descending.stable (rank a)
  rw [List.filter_cons_of_pos (by simp)] at equals
  obtain ⟨before, after, rfl, lower, _, _⟩ := List.filter_eq_cons_iff.mp equals.symm
  refine ⟨before, after, rfl, ?_, ?_⟩
  · intro b member
    have distinct : rank b ≠ rank a := by simpa using lower b member
    exact lt_of_le_of_ne (highest b (by simp [member])) distinct
  · exact fun b member => highest b (by simp [member])

theorem isHighest (descending : Descending rank items order) :
    IsHighest rank items order.head?.toList := by
  cases order with
  | nil => exact .inl ⟨rfl, descending.perm.nil_eq.symm⟩
  | cons a rest =>
    obtain ⟨before, after, split, lower, upper⟩ := descending.exists_of_cons
    exact .inr ⟨before, a, after, rfl, split, lower, upper⟩

theorem unique (first : Descending rank items order) (second : Descending rank items order') :
    order = order' := by
  have between : Descending rank order' order :=
    ⟨first.perm.trans second.perm.symm, first.sorted, fun n => (first.stable n).trans (second.stable n).symm⟩
  have sorted := second.sorted
  clear first second
  induction order generalizing order' with
  | nil => exact between.perm.nil_eq
  | cons a rest ih =>
    obtain ⟨before, after, rfl, lower, _⟩ := between.exists_of_cons
    cases before with
    | cons b before =>
      have above : rank a ≤ rank b := (List.pairwise_cons.mp sorted).1 a (by simp)
      exact absurd (lower b (by simp)) (not_lt.mpr above)
    | nil =>
      have rest_descending : Descending rank after rest := by
        refine ⟨between.perm.cons_inv, (List.pairwise_cons.mp between.sorted).2, fun n => ?_⟩
        have equals := between.stable n
        simp only [List.nil_append, List.filter_cons] at equals
        split at equals
        · exact (List.cons.inj equals).2
        · exact equals
      rw [ih rest_descending (List.pairwise_cons.mp sorted).2]
      rfl

end Descending

theorem Number.order?_int (m n : Int) : Number.order? (.int m) (.int n) = some (compare m n) := by
  simp only [Number.order?, Number.measure, Measure.order?, Scaled.order, Scaled.compareShifted]
  by_cases zero : m = 0
  · simp [zero]
  · simp [zero]

theorem Value.eq_of_number? {v : Value} {n : Number} (number : v.number? = some n) :
    v = .number n ∨ ∃ b, v = .bool b ∧ boolNumber b = n := by
  cases v with
  | number m => exact .inl (congrArg Value.number (Option.some.inj number))
  | bool b => exact .inr ⟨b, rfl, Option.some.inj number⟩
  | _ => cases number

theorem Value.precedes_of_integers {v w : Value} {m n : Int} (left : v.number? = some (.int m))
    (right : w.number? = some (.int n)) : Value.precedes false v w = .ok (decide (m < n)) := by
  have numbers : Value.precedes false v w = Value.numberPrecedes false (.int m) (.int n) := by
    rcases Value.eq_of_number? left with rfl | ⟨b, rfl, first⟩ <;>
      rcases Value.eq_of_number? right with rfl | ⟨c, rfl, second⟩ <;>
      simp [Value.precedes, Value.number?, *]
  simp only [numbers, Value.numberPrecedes, Number.order?_int]
  congr 1
  rcases lt_trichotomy m n with lower | rfl | higher
  · simp [compare_lt_iff_lt.mpr lower, lower, settles]
  · simp [settles]
  · simp [compare_gt_iff_gt.mpr higher, settles, higher.le]

namespace Engine

variable {rules : List NamedRule} {rank : NamedRule → Int}

theorem insertByPriority_eq {rule : NamedRule} (first : rule.priority.number? = some (.int (rank rule)))
    (ranked : ∀ r ∈ rules, r.priority.number? = some (.int (rank r))) :
    insertByPriority rule rules = .ok (rules.orderedInsert (fun a b => rank b ≤ rank a) rule) := by
  induction rules with
  | nil => rfl
  | cons other rest ih =>
    rw [List.forall_mem_cons] at ranked
    simp only [insertByPriority, Value.precedes_of_integers first ranked.1, List.orderedInsert_cons]
    by_cases lower : rank rule < rank other
    · have below : ¬rank other ≤ rank rule := not_le.mpr lower
      simp [lower, below, ih ranked.2, bind, Except.bind, pure, Except.pure]
    · have above : rank other ≤ rank rule := not_lt.mp lower
      simp [lower, above, bind, Except.bind, pure, Except.pure]

theorem byPriority_eq (ranked : ∀ r ∈ rules, r.priority.number? = some (.int (rank r))) :
    byPriority rules = .ok (rules.insertionSort fun a b => rank b ≤ rank a) := by
  induction rules with
  | nil => rfl
  | cons rule rest ih =>
    rw [List.forall_mem_cons] at ranked
    have sorted (r) (member : r ∈ rest.insertionSort fun a b => rank b ≤ rank a) :
        r.priority.number? = some (.int (rank r)) :=
      ranked.2 r ((List.mem_insertionSort _).mp member)
    have placed := insertByPriority_eq ranked.1 sorted
    simpa [byPriority, ih ranked.2, bind, Except.bind] using placed

end Engine

end Criteria
