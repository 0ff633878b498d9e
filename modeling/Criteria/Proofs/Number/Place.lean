import Criteria.Number.Basic
import Criteria.Proofs.Search
import Mathlib.Algebra.Order.Field.Power
import Mathlib.Algebra.Order.Ring.Cast
import Mathlib.Data.Rat.Cast.Order
import Mathlib.Order.WithBot
import Mathlib.Tactic.FieldSimp
import Mathlib.Tactic.Ring

set_option autoImplicit false
set_option relaxedAutoImplicit false

/-!
# Places of numbers

A number that can be measured has a place among the rationals and the two infinities. Numbers of all forms
are compared as their places are, however large the powers of ten are that their values are written with.
-/

namespace Criteria

theorem BinaryFloat.lt_pow_digitCount (n : Nat) : n < 10 ^ digitCount n :=
  (Nat.length_toDigits_le_iff (by decide) Nat.length_toDigits_pos).mp le_rfl

namespace Scaled

def value (a : Scaled) : ℚ := a.ratio * 10 ^ a.exponent

theorem compareShifted_eq (x : Int) (places : Nat) (y : Int) :
    compareShifted x places y = compare (x * 10 ^ places) y := by
  unfold compareShifted
  by_cases zero : x = 0
  · simp [zero]
  rw [if_neg (by simpa using zero)]
  split
  · rename_i beyond
    -- The right side has too few digits to matter, so that the sign of the left one settles the order.
    have digits : y.natAbs < 10 ^ places :=
      (BinaryFloat.lt_pow_digitCount _).trans (Nat.pow_lt_pow_right (by decide) beyond)
    have small : |y| < 10 ^ places := by
      rw [Int.abs_eq_natAbs]
      exact_mod_cast digits
    obtain ⟨above, below⟩ := abs_lt.mp small
    have power : (0 : Int) ≤ 10 ^ places := (abs_nonneg y).trans small.le
    rcases lt_or_gt_of_ne zero with negative | positive
    · have far : x * 10 ^ places ≤ -1 * 10 ^ places :=
        mul_le_mul_of_nonneg_right (by omega) power
      have lower : x * 10 ^ places < y := by omega
      rw [compare_lt_iff_lt.mpr negative, compare_lt_iff_lt.mpr lower]
    · have far : 1 * 10 ^ places ≤ x * 10 ^ places :=
        mul_le_mul_of_nonneg_right (by omega) power
      have higher : y < x * 10 ^ places := by omega
      rw [compare_gt_iff_gt.mpr positive, compare_gt_iff_gt.mpr higher]
  · rw [Nat.pow_eq]
    push_cast
    rfl

theorem compare_mul_of_pos {c : ℚ} (positive : 0 < c) (x y : Int) :
    compare (x * c) (y * c) = compare x y := by
  have increasing : StrictMono fun z : Int => (z : ℚ) * c := fun z w lower =>
    mul_lt_mul_of_pos_right (Int.cast_lt.mpr lower) positive
  rw [← cmp_eq_compare, ← cmp_eq_compare]
  exact increasing.cmp_map_eq x y

theorem value_eq_mul (a : Scaled) {d : Nat} (positive : 0 < d) {exponent : Int}
    (lower : exponent ≤ a.exponent) :
    a.value = (a.ratio.num * d * 10 ^ (a.exponent - exponent).toNat : Int) *
      (10 ^ exponent / (a.ratio.den * d : Nat)) := by
  have power : (10 : ℚ) ^ a.exponent = 10 ^ (a.exponent - exponent).toNat * 10 ^ exponent := by
    rw [← zpow_natCast, ← zpow_add₀ (by norm_num)]
    congr 1
    omega
  have den : (a.ratio.den : ℚ) ≠ 0 := by exact_mod_cast a.ratio.den_nz
  have common : (d : ℚ) ≠ 0 := by exact_mod_cast positive.ne'
  rw [value, power]
  nth_rewrite 1 [← Rat.num_div_den a.ratio]
  push_cast
  field_simp

theorem order_eq_compare (a b : Scaled) : a.order b = compare a.value b.value := by
  have unit (exponent : Int) : (0 : ℚ) < 10 ^ exponent / (a.ratio.den * b.ratio.den : Nat) := by
    have den : 0 < a.ratio.den * b.ratio.den := Nat.mul_pos a.ratio.den_pos b.ratio.den_pos
    exact div_pos (zpow_pos (by norm_num) exponent) (by exact_mod_cast den)
  simp only [order, compareShifted_eq]
  split
  · rename_i lower
    rw [a.value_eq_mul b.ratio.den_pos lower, b.value_eq_mul a.ratio.den_pos le_rfl,
      mul_comm b.ratio.den, compare_mul_of_pos (unit _)]
    simp
  · rename_i lower
    rw [a.value_eq_mul b.ratio.den_pos le_rfl, b.value_eq_mul a.ratio.den_pos (not_le.mp lower).le,
      mul_comm b.ratio.den, compare_mul_of_pos (unit _), ← Std.OrientedOrd.eq_swap]
    simp

end Scaled

abbrev Place := WithBot (WithTop ℚ)

namespace Measure

def place? : Measure → Option Place
  | .exact a => some (a.value : WithTop ℚ)
  | .infinite negative => some (if negative then ⊥ else ⊤)
  | .nowhere => none

theorem compare_coe (p q : ℚ) : compare ((p : WithTop ℚ) : Place) (q : WithTop ℚ) = compare p q := by
  have increasing : StrictMono fun r : ℚ => ((r : WithTop ℚ) : Place) :=
    WithBot.coe_strictMono.comp WithTop.coe_strictMono
  rw [← cmp_eq_compare, ← cmp_eq_compare]
  exact increasing.cmp_map_eq p q

theorem compare_exact_infinite (p : ℚ) (negative : Bool) :
    compare ((p : WithTop ℚ) : Place) (if negative then ⊥ else ⊤) = if negative then .gt else .lt := by
  cases negative with
  | true => exact compare_gt_iff_gt.mpr (WithBot.bot_lt_coe _)
  | false => exact compare_lt_iff_lt.mpr (WithBot.coe_lt_coe.mpr (WithTop.coe_lt_top p))

theorem order?_eq (m n : Measure) : m.order? n = m.place?.bind fun p => n.place?.map (compare p) := by
  cases m with
  | nowhere => rfl
  | exact a =>
    cases n with
    | nowhere => rfl
    | exact b => exact congrArg some ((a.order_eq_compare b).trans (compare_coe _ _).symm)
    | infinite negative => exact congrArg some (compare_exact_infinite _ _).symm
  | infinite negative =>
    cases n with
    | nowhere => rfl
    | exact b =>
      have turned := congrArg Ordering.swap (compare_exact_infinite b.value negative)
      rw [← Std.OrientedOrd.eq_swap] at turned
      refine congrArg some (Eq.trans ?_ turned.symm)
      cases negative <;> rfl
    | infinite negative' => cases negative <;> cases negative' <;> rfl

theorem order?_eq_some_iff {m n : Measure} {o : Ordering} :
    m.order? n = some o ↔ ∃ p, m.place? = some p ∧ ∃ q, n.place? = some q ∧ compare p q = o := by
  rw [order?_eq, Option.bind_eq_some_iff]
  simp only [Option.map_eq_some_iff]

end Measure

namespace Number

variable {a b : Number}

def place? (a : Number) : Option Place := a.measure.place?

theorem order?_eq_some_iff {o : Ordering} :
    a.order? b = some o ↔ ∃ p, a.place? = some p ∧ ∃ q, b.place? = some q ∧ compare p q = o :=
  Measure.order?_eq_some_iff

theorem same_iff : a.same b = true ↔ ∃ p, a.place? = some p ∧ b.place? = some p := by
  simp [same, order?_eq_some_iff]

theorem place?_eq_none_iff : a.place? = none ↔ a.isNaN = .ok true ∨ a = .unmeasured := by
  cases a with
  | int n => simp [place?, measure, Measure.place?, isNaN, Search.bind_eq_ok_iff, pure, Except.pure]
  | fraction q => simp [place?, measure, Measure.place?, isNaN, Search.bind_eq_ok_iff, pure, Except.pure]
  | unmeasured => simp [place?, measure, Measure.place?]
  | float x =>
    cases x <;> simp [place?, measure, BinaryFloat.measure, BinaryFloat.toRat?, Measure.place?, isNaN,
      checkRange, pure, Except.pure, bind, Except.bind]
  | decimal d =>
    cases d <;> simp [place?, measure, Decimal.measure, Measure.place?, isNaN, Decimal.isNaN,
      checkRange, pure, Except.pure, bind, Except.bind]

theorem place?_float_of_toRat? {x : BinaryFloat} {q : ℚ} (exactly : x.toRat? = some q) :
    (float x).place? = some (q : WithTop ℚ) := by
  cases x with
  | finite negative significand exponent =>
    simp [place?, measure, BinaryFloat.measure, exactly, Measure.place?, Scaled.value]
  | infinite negative => simp [BinaryFloat.toRat?] at exactly
  | nan => simp [BinaryFloat.toRat?] at exactly

theorem toRat?_eq_zero_iff {negative : Bool} {significand : Nat} {exponent : Int} {q : ℚ}
    (exactly : (BinaryFloat.finite negative significand exponent).toRat? = some q) :
    q = 0 ↔ significand = 0 := by
  have magnitude : (if 0 ≤ exponent then ((significand * Nat.pow 2 exponent.toNat : Nat) : ℚ)
      else mkRat significand (Nat.pow 2 (-exponent).toNat)) = 0 ↔ significand = 0 := by
    split
    · simp [Nat.pow_eq]
    · rw [Rat.mkRat_eq_zero (by simp [Nat.pow_eq])]
      exact Int.natCast_eq_zero
  rw [← Option.some.inj exactly]
  cases negative with
  | false => exact magnitude
  | true => exact neg_eq_zero.trans magnitude

def zero : Place := ((0 : ℚ) : WithTop ℚ)

theorem place?_float_eq_zero_iff {x : BinaryFloat} :
    (float x).place? = some zero ↔ x.isZero = true := by
  cases x with
  | finite negative significand exponent =>
    obtain ⟨q, exactly⟩ : ∃ q, (BinaryFloat.finite negative significand exponent).toRat? = some q := ⟨_, rfl⟩
    rw [place?_float_of_toRat? exactly, zero]
    simpa [BinaryFloat.isZero] using toRat?_eq_zero_iff exactly
  | infinite negative =>
    have far : (if negative then ⊥ else ⊤ : Place) ≠ zero := by
      cases negative with
      | true => exact WithBot.bot_ne_coe
      | false => exact fun same => WithTop.top_ne_coe (WithBot.coe_injective same)
    have elsewhere : (float (.infinite negative)).place? ≠ some zero :=
      fun same => far (Option.some.inj same)
    simp only [elsewhere, BinaryFloat.isZero, Bool.false_eq_true]
  | nan => simp [place?, measure, BinaryFloat.measure, Measure.place?, BinaryFloat.isZero]

end Number

end Criteria
