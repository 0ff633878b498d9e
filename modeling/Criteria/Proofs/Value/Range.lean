import Criteria.Comparison
import Criteria.Containment
import Criteria.Proofs.Value.Endless
import Criteria.Value.Types

set_option autoImplicit false
set_option relaxedAutoImplicit false

/-!
# Numbers out of range, and the tests that meet them

Equality, types and containment ask whether a number is one, which an integer or a fraction beyond the
double-precision numbers cannot tell. Besides, containers that hold themselves can make a comparison go on
without end. No other value makes these tests fail to answer.
-/

namespace Criteria

/-- Integers and fractions that round beyond every double-precision number, and the fault of each. -/
inductive Number.OutOfRange : Number → Fault → Prop
  | int {n : Int} : overflowBound ≤ n.natAbs → OutOfRange (.int n) .integerTooLarge
  | fraction {q : Rat} :
      overflowBound * q.den ≤ q.num.natAbs → OutOfRange (.fraction q) .ratioTooLarge

namespace Number

theorem outOfRange_of_checkRange {n : Number} {f : Fault} (stopped : n.checkRange = .error f) :
    n.OutOfRange f := by
  cases n with
  | int n =>
    simp only [checkRange] at stopped
    split at stopped
    · simp at stopped
    · rename_i large
      rw [← Except.error.inj stopped]
      exact .int (Nat.not_lt.mp large)
  | fraction q =>
    simp only [checkRange] at stopped
    split at stopped
    · simp at stopped
    · rename_i large
      rw [← Except.error.inj stopped]
      exact .fraction (Nat.not_lt.mp large)
  | float x => simp [checkRange] at stopped
  | decimal d => simp [checkRange] at stopped
  | unmeasured => simp [checkRange] at stopped

theorem outOfRange_of_isNaN {n : Number} {f : Fault} (stopped : n.isNaN = .error f) :
    n.OutOfRange f := by
  rcases Search.bind_eq_error_iff.mp stopped with range | ⟨_, _, answered⟩
  · exact outOfRange_of_checkRange range
  · cases n <;> simp [pure, Except.pure] at answered

theorem outOfRange_of_isFinite {n : Number} {f : Fault} (stopped : n.isFinite = .error f) :
    n.OutOfRange f := by
  rcases Search.bind_eq_error_iff.mp stopped with range | ⟨_, _, answered⟩
  · exact outOfRange_of_checkRange range
  · split at answered <;> simp [pure, Except.pure] at answered

theorem checkRange_of_outOfRange {n : Number} {f : Fault} (large : n.OutOfRange f) :
    n.checkRange = .error f := by
  cases large with
  | int beyond => simp only [checkRange, Nat.not_lt.mpr beyond, if_false]
  | fraction beyond => simp only [checkRange, Nat.not_lt.mpr beyond, if_false]

theorem isFinite_eq_error_iff {n : Number} {f : Fault} : n.isFinite = .error f ↔ n.OutOfRange f := by
  refine ⟨outOfRange_of_isFinite, fun large => ?_⟩
  exact Search.bind_eq_error_iff.mpr (.inl (checkRange_of_outOfRange large))

end Number

namespace Value

variable {v w argument : Value} {f : Fault}

theorem holds_of_mem_elements (member : w ∈ v.elements) : v.Holds w := by
  unfold elements at member
  split at member
  · rename_i items members
    refine .part ?_ (.self w)
    simp [parts, members, member]
  · simp at member
  · simp at member
  · rw [List.mem_singleton.mp member]
    exact .self _

/-- One of two values holds a number that is out of range, or both hold a container that holds itself. -/
inductive MeetsLimit (v argument : Value) : Fault → Prop
  | number {n : Number} {f : Fault} : n.OutOfRange f →
      v.Holds (.number n) ∨ argument.Holds (.number n) → MeetsLimit v argument f
  | knots {nodes nodes' : List Value} {root root' : Nat} : v.Holds (.knot nodes root) →
      argument.Holds (.knot nodes' root') → MeetsLimit v argument .endless

theorem outOfRange_of_isNaN (stopped : v.isNaN = .error f) :
    ∃ n, v = .number n ∧ n.OutOfRange f := by
  cases v with
  | number n => exact ⟨n, rfl, Number.outOfRange_of_isNaN stopped⟩
  | _ => simp [isNaN] at stopped

theorem outOfRange_of_isFinite (stopped : v.isFinite = .error f) :
    ∃ n, v = .number n ∧ n.OutOfRange f := by
  cases v with
  | number n => exact ⟨n, rfl, Number.outOfRange_of_isFinite stopped⟩
  | _ => simp [isFinite] at stopped

theorem eq_number_of_kind (numeric : v.kind = .number) : ∃ n, v = .number n := by
  unfold kind at numeric
  split at numeric <;> simp only [reduceCtorEq] at numeric
  rename_i n untied
  exact ⟨n, eq_of_untie untied (by simp) (by simp) (by simp)⟩

theorem meetsLimit_of_strictEquals (stopped : v.strictEquals argument = .error f) :
    v.MeetsLimit argument f := by
  unfold strictEquals at stopped
  split at stopped
  · simp at stopped
  · split at stopped
    · rcases Search.bind_eq_error_iff.mp stopped with left | ⟨leftNaN, _, later⟩
      · obtain ⟨n, rfl, large⟩ := outOfRange_of_isNaN left
        exact .number large (.inl (.self _))
      · split at later
        · simp [pure, Except.pure] at later
        · rcases Search.bind_eq_error_iff.mp later with right | ⟨rightNaN, _, answered⟩
          · obtain ⟨n, rfl, large⟩ := outOfRange_of_isNaN right
            exact .number large (.inr (.self _))
          · split at answered <;> simp [pure, Except.pure] at answered
    · split at stopped
      · simp at stopped
      · split at stopped
        · rename_i endless
          have endless := endless_eq_true_iff.mp endless
          obtain ⟨nodes, root, held⟩ := holds_knot_of_endless (.inl endless)
          obtain ⟨nodes', root', held'⟩ := holds_knot_of_endless (.inr endless)
          exact Except.error.inj stopped ▸ .knots held held'
        · simp at stopped

theorem MeetsLimit.of_holds {a b : Value} (met : a.MeetsLimit b f) (left : v.Holds a)
    (right : argument.Holds b) : v.MeetsLimit argument f := by
  cases met with
  | number large held => exact .number large (held.imp left.trans right.trans)
  | knots held held' => exact .knots (left.trans held) (right.trans held')

theorem meetsLimit_of_isAmong (stopped : isAmong v.elements argument = .error f) :
    v.MeetsLimit argument f := by
  obtain ⟨item, member, failed⟩ := Search.exists_of_anyM stopped (by simp)
  exact (meetsLimit_of_strictEquals failed).of_holds (holds_of_mem_elements member) (.self _)

theorem meetsLimit_of_includesAny (stopped : v.includesAny argument = .error f) :
    v.MeetsLimit argument f := by
  obtain ⟨item, member, failed⟩ := Search.exists_of_anyM stopped (by simp)
  exact (meetsLimit_of_isAmong failed).of_holds (.self _) (holds_of_mem_elements member)

theorem meetsLimit_of_includesAll (stopped : v.includesAll argument = .error f) :
    v.MeetsLimit argument f := by
  obtain ⟨item, member, failed⟩ := Search.exists_of_allM stopped (by simp)
  exact (meetsLimit_of_isAmong failed).of_holds (.self _) (holds_of_mem_elements member)

theorem meetsLimit_of_meets {needsAll : Bool} (stopped : v.meets argument needsAll = .error f) :
    v.MeetsLimit argument f := by
  unfold meets at stopped
  split at stopped
  · simp at stopped
  · split at stopped
    · split at stopped
      · exact meetsLimit_of_includesAll stopped
      · exact meetsLimit_of_includesAny stopped
    · rcases Search.bind_eq_error_iff.mp stopped with compared | ⟨equal, _, later⟩
      · exact meetsLimit_of_strictEquals compared
      · split at later
        · simp [pure, Except.pure] at later
        · split at later
          · exact meetsLimit_of_isAmong later
          · simp [pure, Except.pure] at later

theorem outOfRange_of_hasType {type : NamedType} (stopped : v.hasType type = .error f) :
    ∃ n, v = .number n ∧ n.OutOfRange f := by
  have truthy (stopped : v.isTruthy = .error f) : ∃ n, v = .number n ∧ n.OutOfRange f := by
    cases v with
    | number n =>
      have failed : n.isNaN = .error f := Search.eq_error_of_bind_pure stopped
      exact ⟨n, rfl, Number.outOfRange_of_isNaN failed⟩
    | _ => simp [isTruthy] at stopped
  cases type with
  | integer => exact outOfRange_of_isFinite (Search.eq_error_of_bind_pure stopped)
  | float => exact outOfRange_of_isFinite (Search.eq_error_of_bind_pure stopped)
  | truthy => exact truthy stopped
  | falsy => exact truthy (Search.eq_error_of_bind_pure stopped)
  | _ => simp [hasType] at stopped

theorem outOfRange_of_checkType {name : Value} (stopped : v.checkType name = .error f) :
    ∃ n, v = .number n ∧ n.OutOfRange f := by
  unfold checkType at stopped
  split at stopped
  · exact outOfRange_of_hasType stopped
  · simp at stopped

end Value

end Criteria
