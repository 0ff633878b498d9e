import Criteria.Proofs.Number.Place
import Criteria.Proofs.Value.Range

set_option autoImplicit false
set_option relaxedAutoImplicit false

/-!
# The order behind the comparisons

Four comparisons ask for one order, in which numbers stand by their exact value, texts by their code points,
days and times by the calendar. An order seen from the other side is turned around, and what comes before
something comes before all that follows it. Between texts and between numbers nothing is left out of order,
and what is neither before nor after is equal.
-/

namespace Criteria

namespace Number

variable {a b c : Number} {o : Ordering}

theorem order?_swap (ordered : a.order? b = some o) : b.order? a = some o.swap := by
  obtain ⟨p, left, q, right, rfl⟩ := order?_eq_some_iff.mp ordered
  exact order?_eq_some_iff.mpr ⟨q, right, p, left, Std.OrientedOrd.eq_swap⟩

theorem order?_trans (first : a.order? b = some .lt) (later : b.order? c = some .lt) :
    a.order? c = some .lt := by
  obtain ⟨p, left, q, middle, lower⟩ := order?_eq_some_iff.mp first
  obtain ⟨q', middle', r, right, lower'⟩ := order?_eq_some_iff.mp later
  obtain rfl : q = q' := Option.some.inj (middle.symm.trans middle')
  exact order?_eq_some_iff.mpr ⟨p, left, r, right, Std.TransCmp.lt_trans lower lower'⟩

theorem exists_order? (left : a.place? ≠ none) (right : b.place? ≠ none) : ∃ o, a.order? b = some o := by
  obtain ⟨p, left⟩ := Option.ne_none_iff_exists'.mp left
  obtain ⟨q, right⟩ := Option.ne_none_iff_exists'.mp right
  exact ⟨compare p q, order?_eq_some_iff.mpr ⟨p, left, q, right, rfl⟩⟩

theorem isNaN_ne_true_of_order? (ordered : a.order? b = some o) : a.isNaN ≠ .ok true := by
  intro isNaN
  obtain ⟨p, left, _⟩ := order?_eq_some_iff.mp ordered
  rw [place?_eq_none_iff.mpr (.inl isNaN)] at left
  simp at left

end Number

namespace DateTime

variable {a b c : DateTime} {o : Ordering}

def micros (t : DateTime) : Int :=
  match t.offset with
  | none => t.wallMicros
  | some offset => t.instant offset

theorem order?_eq_some_iff : a.order? b = some o ↔
    a.offset.isSome = b.offset.isSome ∧ compare a.micros b.micros = o := by
  unfold order? micros
  cases a.offset <;> cases b.offset <;> simp

theorem order?_swap (ordered : a.order? b = some o) : b.order? a = some o.swap := by
  obtain ⟨alike, rfl⟩ := order?_eq_some_iff.mp ordered
  exact order?_eq_some_iff.mpr ⟨alike.symm, Std.OrientedOrd.eq_swap⟩

theorem order?_trans (first : a.order? b = some .lt) (later : b.order? c = some .lt) :
    a.order? c = some .lt := by
  obtain ⟨alike, lower⟩ := order?_eq_some_iff.mp first
  obtain ⟨alike', lower'⟩ := order?_eq_some_iff.mp later
  exact order?_eq_some_iff.mpr ⟨alike.trans alike', Std.TransCmp.lt_trans lower lower'⟩

end DateTime

namespace Value

variable {u v w : Value} {o : Ordering}

/-- Only two numbers, two texts, two days or two times have an order. -/
inductive OrderedAs : Value → Value → Ordering → Prop
  | numbers {n m : Number} {o : Ordering} : n.order? m = some o → OrderedAs (.number n) (.number m) o
  | texts {s t : String} {o : Ordering} : compare s t = o → OrderedAs (.text s) (.text t) o
  | days {d e : Date} {o : Ordering} : compare d.ordinal e.ordinal = o → OrderedAs (.date d) (.date e) o
  | times {t t' : DateTime} {o : Ordering} :
      t.order? t' = some o → OrderedAs (.dateTime t) (.dateTime t') o

theorem order?_eq_some_iff : v.order? w = some o ↔ OrderedAs v w o := by
  constructor
  · intro ordered
    unfold order? at ordered
    split at ordered
    · exact .numbers ordered
    · exact .texts (Option.some.inj ordered)
    · exact .days (Option.some.inj ordered)
    · exact .times ordered
    · simp at ordered
  · intro ordered
    cases ordered with
    | numbers numbers => exact numbers
    | texts texts => exact congrArg some texts
    | days days => exact congrArg some days
    | times times => exact times

theorem order?_swap (ordered : v.order? w = some o) : w.order? v = some o.swap := by
  rw [order?_eq_some_iff] at ordered ⊢
  cases ordered with
  | numbers numbers => exact .numbers (Number.order?_swap numbers)
  | texts texts => exact .texts (texts ▸ Std.OrientedOrd.eq_swap)
  | days days => exact .days (days ▸ Std.OrientedOrd.eq_swap)
  | times times => exact .times (DateTime.order?_swap times)

theorem order?_eq_swap (v w : Value) : v.order? w = (w.order? v).map Ordering.swap := by
  ext o
  rw [Option.map_eq_some_iff]
  constructor
  · intro ordered
    exact ⟨o.swap, order?_swap ordered, Ordering.swap_swap⟩
  · rintro ⟨turned, ordered, rfl⟩
    exact order?_swap ordered

theorem order?_trans (first : u.order? v = some .lt) (later : v.order? w = some .lt) :
    u.order? w = some .lt := by
  rw [order?_eq_some_iff] at first later ⊢
  cases first with
  | numbers left => cases later with
    | numbers right => exact .numbers (Number.order?_trans left right)
  | texts left => cases later with
    | texts right => exact .texts (Std.TransCmp.lt_trans left right)
  | days left => cases later with
    | days right => exact .days (Std.TransCmp.lt_trans left right)
  | times left => cases later with
    | times right => exact .times (DateTime.order?_trans left right)

theorem orderable_of_order? (ordered : v.order? w = some o) :
    v.kind = w.kind ∧ v.kind.isOrderable = true ∧ v.isNaN ≠ .ok true := by
  cases order?_eq_some_iff.mp ordered with
  | numbers numbers => exact ⟨rfl, rfl, Number.isNaN_ne_true_of_order? numbers⟩
  | texts => exact ⟨rfl, rfl, nofun⟩
  | days => exact ⟨rfl, rfl, nofun⟩
  | times => exact ⟨rfl, rfl, nofun⟩

/-- Whether a value is a number that is somewhere: neither not a number nor one that cannot be measured. -/
def IsMeasured (v : Value) : Prop := ∃ n, v = .number n ∧ n.isNaN ≠ .ok true ∧ n ≠ .unmeasured

theorem exists_order? (total : (∃ s t, v = .text s ∧ w = .text t) ∨ v.IsMeasured ∧ w.IsMeasured) :
    ∃ o, v.order? w = some o := by
  rcases total with ⟨s, t, rfl, rfl⟩ | ⟨⟨n, rfl, isNumber, measured⟩, m, rfl, isNumber', measured'⟩
  · exact ⟨compare s t, rfl⟩
  · apply Number.exists_order?
    · exact fun nowhere => (Number.place?_eq_none_iff.mp nowhere).elim isNumber measured
    · exact fun nowhere => (Number.place?_eq_none_iff.mp nowhere).elim isNumber' measured'

theorem eq_same_of_strictEquals {n m : Number} {equal : Bool} (isNumber : n.isNaN ≠ .ok true)
    (isNumber' : m.isNaN ≠ .ok true) (answer : (number n).strictEquals (number m) = .ok equal) :
    equal = n.same m := by
  have answer : (do
      if ← n.isNaN then return false
      if ← m.isNaN then return false
      return n.same m : Except Fault Bool) = .ok equal := by
    simpa [strictEquals, kind, untie, isNaN, same] using answer
  obtain ⟨isNaN, left, answer⟩ := Search.bind_eq_ok_iff.mp answer
  cases isNaN with
  | true => exact absurd left isNumber
  | false =>
    obtain ⟨isNaN', right, answer⟩ := Search.bind_eq_ok_iff.mp answer
    cases isNaN' with
    | true => exact absurd right isNumber'
    | false => exact (Except.ok.inj answer).symm

theorem strictEquals_of_order? {equal : Bool}
    (total : (∃ s t, v = .text s ∧ w = .text t) ∨ v.IsMeasured ∧ w.IsMeasured)
    (ordered : v.order? w = some o) (answer : v.strictEquals w = .ok equal) : equal = (o == .eq) := by
  rcases total with ⟨s, t, rfl, rfl⟩ | ⟨⟨n, rfl, isNumber, _⟩, m, rfl, isNumber', _⟩
  · obtain rfl : compare s t = o := Option.some.inj ordered
    have compared := strictEquals_of_apart?_eq_none (a := .text s) (b := .text t) rfl nofun rfl
    rw [← Except.ok.inj (compared.symm.trans answer), same, Bool.eq_iff_iff, beq_iff_eq, beq_iff_eq]
    exact Std.LawfulEqOrd.compare_eq_iff_eq.symm
  · have numbers : n.order? m = some o := ordered
    rw [eq_same_of_strictEquals isNumber isNumber' answer, Number.same, numbers]
    cases o <;> rfl

end Value

namespace Comparison

variable {a b c : Value}

theorem ordered_eq (allowed : Ordering → Bool) (a b : Value) :
    ordered allowed a b = (a.order? b).any allowed := by
  unfold ordered
  cases order : a.order? b with
  | none => simp
  | some o =>
    obtain ⟨same, orderable, _⟩ := Value.orderable_of_order? order
    simp [← same, orderable]

theorem ordered_swap {allowed turned : Ordering → Bool} (swap : ∀ o, turned o.swap = allowed o)
    (a b : Value) : ordered allowed a b = ordered turned b a := by
  rw [ordered_eq, ordered_eq, Value.order?_eq_swap b a]
  cases a.order? b with
  | none => rfl
  | some o => exact (swap o).symm

theorem less_iff : less.holds a b = .ok true ↔ a.order? b = some .lt := by
  rw [holds, ordered_eq, Except.ok.injEq, Option.any_eq_true]
  simp only [beq_iff_eq, exists_eq_right]

theorem not_less_self (a : Value) : less.holds a a = .ok false := by
  rw [holds, ordered_eq]
  cases ordered : a.order? a with
  | none => rfl
  | some o =>
    have turned : some o = some o.swap := ordered.symm.trans (Value.order?_swap ordered)
    cases o with
    | lt => simp at turned
    | eq => rfl
    | gt => rfl

theorem order?_eq_none_of_unsuited (unsuited : a.kind ≠ b.kind ∨ a.isNaN = .ok true ∨ b.isNaN = .ok true ∨
    a.kind.isOrderable = false ∨ b.kind.isOrderable = false) : a.order? b = none := by
  cases order : a.order? b with
  | none => rfl
  | some o =>
    obtain ⟨same, orderable, isNumber⟩ := Value.orderable_of_order? order
    obtain ⟨_, orderable', isNumber'⟩ := Value.orderable_of_order? (Value.order?_swap order)
    rcases unsuited with kinds | isNaN | isNaN' | inept | inept'
    · exact absurd same kinds
    · exact absurd isNaN isNumber
    · exact absurd isNaN' isNumber'
    · simp [orderable] at inept
    · simp [orderable'] at inept'

end Comparison

open Comparison in
/-- Comparisons ask for one order: each is another one seen from the other side, and to be less is to be at
most and never at least, not of oneself, and of all that the greater one is less than. Of two texts, and of
two numbers that are somewhere, one is less or greater or they are equal, and only one of these. Values of
different kinds and values without an order compare false. -/
theorem comparisons_follow_one_order (a b c : Value) :
    (greater.holds a b = less.holds b a ∧ greaterOrEqual.holds a b = lessOrEqual.holds b a) ∧
    (less.holds a a = .ok false ∧
      (less.holds a b = .ok true → less.holds b c = .ok true → less.holds a c = .ok true)) ∧
    (less.holds a b = .ok true →
      lessOrEqual.holds a b = .ok true ∧ greaterOrEqual.holds a b = .ok false) ∧
    ((∃ s t, a = .text s ∧ b = .text t) ∨ a.IsMeasured ∧ b.IsMeasured →
      ∃ lt gt lte gte, less.holds a b = .ok lt ∧ greater.holds a b = .ok gt ∧
        lessOrEqual.holds a b = .ok lte ∧ greaterOrEqual.holds a b = .ok gte ∧
        [lt, gt, lte && gte].count true = 1 ∧
        ∀ equal, Comparison.equal.holds a b = .ok equal → equal = (lte && gte)) ∧
    (a.kind ≠ b.kind ∨ a.isNaN = .ok true ∨ b.isNaN = .ok true ∨ a.kind.isOrderable = false ∨
        b.kind.isOrderable = false →
      ∀ comparison ∈ [greater, greaterOrEqual, less, lessOrEqual], comparison.holds a b = .ok false) := by
  refine ⟨⟨?_, ?_⟩, ⟨not_less_self a, ?_⟩, ?_, ?_, ?_⟩
  · exact congrArg Except.ok (ordered_swap (by decide) a b)
  · exact congrArg Except.ok (ordered_swap (by decide) a b)
  · intro first later
    exact less_iff.mpr (Value.order?_trans (less_iff.mp first) (less_iff.mp later))
  · intro first
    have order : a.order? b = some .lt := less_iff.mp first
    simp [holds, ordered_eq, order]
  · intro total
    obtain ⟨o, order⟩ := Value.exists_order? total
    refine ⟨o == .lt, o == .gt, o != .gt, o != .lt, ?_⟩
    simp only [holds, ordered_eq, order, Option.any_some, true_and]
    refine ⟨by cases o <;> rfl, fun equal answer => ?_⟩
    rw [Value.strictEquals_of_order? total order answer]
    cases o <;> rfl
  · intro unsuited comparison listed
    have order : a.order? b = none := order?_eq_none_of_unsuited unsuited
    simp only [List.mem_cons, List.not_mem_nil, or_false] at listed
    rcases listed with rfl | rfl | rfl | rfl <;> simp [holds, ordered_eq, order]

/-- A number below a fraction that is below infinity. -/
theorem comparisons_follow_one_order_of_numbers :
    let whole : Value := .int 1
    let fraction : Value := .number (.fraction (3 / 2))
    let infinity : Value := .number (.float (.infinite false))
    (Comparison.less.holds whole fraction = .ok true ∧ Comparison.less.holds fraction infinity = .ok true) ∧
      (whole.IsMeasured ∧ fraction.IsMeasured) ∧
      Comparison.less.holds whole infinity = .ok true ∧
      Comparison.greaterOrEqual.holds whole fraction = .ok false ∧
      ∃ lt gt lte gte, Comparison.less.holds whole fraction = .ok lt ∧
        Comparison.greater.holds whole fraction = .ok gt ∧
        Comparison.lessOrEqual.holds whole fraction = .ok lte ∧
        Comparison.greaterOrEqual.holds whole fraction = .ok gte ∧ [lt, gt, lte && gte].count true = 1 := by
  intro whole fraction infinity
  have first : Comparison.less.holds whole fraction = .ok true := by decide +kernel
  have later : Comparison.less.holds fraction infinity = .ok true := by decide +kernel
  have measured : whole.IsMeasured ∧ fraction.IsMeasured :=
    ⟨⟨_, rfl, by decide +kernel, nofun⟩, _, rfl, by decide +kernel, nofun⟩
  obtain ⟨_, ⟨_, trans⟩, excludes, total, _⟩ := comparisons_follow_one_order whole fraction infinity
  obtain ⟨lt, gt, lte, gte, less, greater, lessOrEqual, greaterOrEqual, one, _⟩ := total (.inr measured)
  exact ⟨⟨first, later⟩, measured, trans first later, (excludes first).2,
    lt, gt, lte, gte, less, greater, lessOrEqual, greaterOrEqual, one⟩

end Criteria
