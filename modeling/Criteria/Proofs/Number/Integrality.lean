import Criteria.Proofs.Number.Place
import Mathlib.Data.Rat.Lemmas

set_option autoImplicit false
set_option relaxedAutoImplicit false

/-!
# Rationals of numbers, and their integer parts

A number of finite value stands for one rational, whatever its form. Whether that is an integer is found
exactly, and so is its integer part, also where the value has a power of ten that is never written out.
-/

namespace Criteria

def integerPart (q : ℚ) : Int := q.num.tdiv q.den

theorem integerPart_div (x : Int) {y : Nat} (positive : 0 < y) : integerPart (x / y) = x.tdiv y := by
  have apart : (y : Int) ≠ 0 := by exact_mod_cast positive.ne'
  have quotient : (x : ℚ) / y = Rat.divInt x y := by rw [Rat.divInt_eq_div, Int.cast_natCast]
  obtain ⟨c, num, den⟩ := Rat.num_den_mk apart quotient
  have scale : 0 < c := by
    have product : 0 < c * (((x : ℚ) / y).den : Int) := den ▸ Int.natCast_pos.mpr positive
    exact pos_of_mul_pos_left product (Int.natCast_nonneg _)
  calc integerPart (x / y) = (c * ((x : ℚ) / y).num).tdiv (c * (((x : ℚ) / y).den : Int)) :=
        (Int.mul_tdiv_mul_of_pos _ _ scale).symm
    _ = x.tdiv y := by rw [← num, ← den]

theorem isInt_iff_eq_integerPart (q : ℚ) : q.isInt = true ↔ q = integerPart q := by
  constructor
  · intro whole
    have den : q.den = 1 := by simpa [Rat.isInt] using whole
    rw [integerPart, den, Nat.cast_one, Int.tdiv_one]
    exact Rat.eq_num_of_isInt whole
  · intro same
    rw [same]
    simp [Rat.isInt]

theorem isInt_iff_exists (q : ℚ) : q.isInt = true ↔ ∃ z : Int, q = z := by
  constructor
  · exact fun whole => ⟨_, (isInt_iff_eq_integerPart q).mp whole⟩
  · rintro ⟨z, rfl⟩
    simp [Rat.isInt]

theorem isInt_div_iff (x : Int) {y : Nat} (positive : 0 < y) :
    ((x : ℚ) / y).isInt = true ↔ (y : Int) ∣ x := by
  have apart : (y : Int) ≠ 0 := by exact_mod_cast positive.ne'
  rw [Rat.isInt, beq_iff_eq, ← Rat.den_div_intCast_eq_one_iff _ _ apart, Int.cast_natCast]

namespace Scaled

variable {a : Scaled}

theorem value_of_nonneg (raised : 0 ≤ a.exponent) :
    a.value = (a.ratio.num * 10 ^ a.exponent.toNat : Int) / a.ratio.den := by
  obtain ⟨places, exponent⟩ := Int.eq_ofNat_of_zero_le raised
  rw [value, exponent, Int.toNat_natCast, zpow_natCast]
  nth_rewrite 1 [← Rat.num_div_den a.ratio]
  push_cast
  ring

theorem value_of_neg (lowered : a.exponent < 0) :
    a.value = a.ratio.num / (a.ratio.den * 10 ^ (-a.exponent).toNat : Nat) := by
  obtain ⟨places, exponent⟩ := Int.eq_ofNat_of_zero_le (Int.neg_nonneg.mpr lowered.le)
  have turned : a.exponent = -places := by omega
  rw [value, turned, neg_neg, Int.toNat_natCast, zpow_neg, zpow_natCast]
  nth_rewrite 1 [← Rat.num_div_den a.ratio]
  push_cast
  field_simp

theorem natAbs_lt_of_digitCount_lt {x : Int} {d places : Nat} (positive : 0 < d)
    (beyond : BinaryFloat.digitCount x.natAbs < places) : x.natAbs < d * 10 ^ places :=
  calc x.natAbs < 10 ^ BinaryFloat.digitCount x.natAbs := BinaryFloat.lt_pow_digitCount _
    _ < 10 ^ places := Nat.pow_lt_pow_right (by decide) beyond
    _ ≤ d * 10 ^ places := Nat.le_mul_of_pos_left _ positive

theorem tdiv_eq_zero_of_natAbs_lt {x : Int} {y : Nat} (lower : x.natAbs < y) : x.tdiv y = 0 := by
  rw [← Int.natAbs_eq_zero, Int.natAbs_tdiv, Int.natAbs_natCast]
  exact Nat.div_eq_of_lt lower

theorem isInteger_of_nonneg (raised : 0 ≤ a.exponent) :
    a.isInteger = true ↔ (a.ratio.den : Int) ∣ a.ratio.num * 10 ^ a.exponent.toNat := by
  simp only [isInteger, raised, if_true, Bool.or_eq_true, beq_iff_eq, Nat.pow_eq, Nat.cast_pow]
  rw [Int.dvd_iff_emod_eq_zero, Nat.cast_ofNat]
  refine ⟨?_, .inr⟩
  rintro (one | divides)
  · simp [one]
  · exact divides

theorem isInteger_of_neg (lowered : a.exponent < 0) :
    a.isInteger = true ↔ ((a.ratio.den * 10 ^ (-a.exponent).toNat : Nat) : Int) ∣ a.ratio.num := by
  have power : a.ratio.den * Nat.pow 10 (-a.exponent).toNat = a.ratio.den * 10 ^ (-a.exponent).toNat := rfl
  simp only [isInteger, not_le.mpr lowered, if_false, Bool.or_eq_true, Bool.and_eq_true, beq_iff_eq,
    decide_eq_true_eq, ← Int.natCast_mul, power, ← Int.dvd_iff_emod_eq_zero]
  constructor
  · rintro (zero | ⟨_, divides⟩)
    · simp [zero]
    · exact divides
  · intro divides
    by_cases zero : a.ratio.num = 0
    · exact .inl zero
    -- The digits are counted first, but a number with too few of them is no multiple of the power.
    refine .inr ⟨not_lt.mp fun beyond => ?_, divides⟩
    exact zero (Int.eq_zero_of_dvd_of_natAbs_lt_natAbs divides
      (natAbs_lt_of_digitCount_lt a.ratio.den_pos beyond))

theorem truncate_of_nonneg (raised : 0 ≤ a.exponent) :
    a.truncate = (a.ratio.num * 10 ^ a.exponent.toNat).tdiv a.ratio.den := by
  simp only [truncate, raised, if_true, Nat.pow_eq, Nat.cast_pow, Nat.cast_ofNat]

theorem truncate_of_neg (lowered : a.exponent < 0) :
    a.truncate = a.ratio.num.tdiv (a.ratio.den * 10 ^ (-a.exponent).toNat : Nat) := by
  simp only [truncate, not_le.mpr lowered, if_false]
  split
  · rename_i beyond
    exact (tdiv_eq_zero_of_natAbs_lt (natAbs_lt_of_digitCount_lt a.ratio.den_pos beyond)).symm
  · rw [← Int.natCast_mul]
    rfl

theorem exists_quotient (a : Scaled) : ∃ (x : Int) (y : Nat), 0 < y ∧ a.value = x / y ∧
    (a.isInteger = true ↔ (y : Int) ∣ x) ∧ a.truncate = x.tdiv y := by
  have den : 0 < a.ratio.den := a.ratio.den_pos
  by_cases raised : 0 ≤ a.exponent
  · exact ⟨_, _, den, value_of_nonneg raised, isInteger_of_nonneg raised, truncate_of_nonneg raised⟩
  · have lowered : a.exponent < 0 := not_le.mp raised
    exact ⟨_, _, Nat.mul_pos den (Nat.pow_pos (by decide)), value_of_neg lowered, isInteger_of_neg lowered,
      truncate_of_neg lowered⟩

theorem isInteger_eq (a : Scaled) : a.isInteger = a.value.isInt := by
  obtain ⟨x, y, positive, quotient, divides, _⟩ := a.exists_quotient
  rw [Bool.eq_iff_iff, divides, quotient, isInt_div_iff x positive]

theorem truncate_eq (a : Scaled) : a.truncate = integerPart a.value := by
  obtain ⟨x, y, positive, quotient, _, truncated⟩ := a.exists_quotient
  rw [truncated, quotient, integerPart_div x positive]

@[simp] theorem value_whole (q : ℚ) : value ⟨q, 0⟩ = q := by simp [value]

end Scaled

def signed (negative : Bool) (magnitude : ℚ) : ℚ := if negative then -magnitude else magnitude

theorem BinaryFloat.toRat?_finite (negative : Bool) (significand : Nat) (exponent : Int) :
    (finite negative significand exponent).toRat? = some (signed negative (significand * 2 ^ exponent)) := by
  have magnitude : (if 0 ≤ exponent then ((significand * Nat.pow 2 exponent.toNat : Nat) : ℚ)
      else mkRat significand (Nat.pow 2 (-exponent).toNat)) = significand * 2 ^ exponent := by
    split
    · rename_i raised
      obtain ⟨places, rfl⟩ := Int.eq_ofNat_of_zero_le raised
      rw [Int.toNat_natCast, zpow_natCast, Nat.pow_eq]
      push_cast
      rfl
    · rename_i raised
      obtain ⟨places, turned⟩ := Int.eq_ofNat_of_zero_le (Int.neg_nonneg.mpr (not_le.mp raised).le)
      obtain rfl : exponent = -places := by omega
      rw [neg_neg, Int.toNat_natCast, zpow_neg, zpow_natCast, Nat.pow_eq, Rat.mkRat_eq_div]
      push_cast
      rfl
  rw [toRat?, signed, magnitude]

namespace Number

variable {n m : Number} {q : ℚ}

def rational? : Number → Option ℚ
  | .int n => some n
  | .float (.finite negative significand exponent) => some (signed negative (significand * 2 ^ exponent))
  | .decimal (.finite negative coefficient exponent) => some (signed negative (coefficient * 10 ^ exponent))
  | .fraction q => some q
  | _ => none

theorem rational?_eq_some_iff : n.rational? = some q ↔ ∃ a, n.measure = .exact a ∧ a.value = q := by
  cases n with
  | int n => simp [rational?, measure]
  | fraction p => simp [rational?, measure]
  | unmeasured => simp [rational?, measure]
  | float x =>
    cases x <;> simp [rational?, measure, BinaryFloat.measure, BinaryFloat.toRat?_finite]
  | decimal d =>
    cases d with
    | finite negative coefficient exponent =>
      cases negative <;> simp [rational?, measure, Decimal.measure, Scaled.value, signed]
    | _ => simp [rational?, measure, Decimal.measure]

theorem place?_eq_some_iff : n.place? = some ((q : WithTop ℚ) : Place) ↔ n.rational? = some q := by
  rw [rational?_eq_some_iff, place?]
  cases n.measure with
  | exact a => simp [Measure.place?]
  | infinite negative => cases negative <;> simp [Measure.place?]
  | nowhere => simp [Measure.place?]

theorem rational?_congr (alike : n.place? = m.place?) : n.rational? = m.rational? := by
  ext q
  rw [← place?_eq_some_iff, ← place?_eq_some_iff, alike]

theorem isZero_iff : n.isZero = true ↔ n.rational? = some 0 := by
  have origin : (int 0).place? = some (((0 : ℚ) : WithTop ℚ) : Place) := place?_eq_some_iff.mpr (by simp [rational?])
  rw [isZero, same_iff, ← place?_eq_some_iff, origin]
  constructor
  · rintro ⟨p, here, there⟩
    rw [here, there]
  · exact fun here => ⟨_, here, rfl⟩

theorem isFinite_eq (n : Number) : n.isFinite = (fun _ => n.rational?.isSome) <$> n.checkRange := by
  have somewhere : n.rational?.isSome = true ↔ ∃ a, n.measure = .exact a := by
    simp [Option.isSome_iff_exists, rational?_eq_some_iff]
  unfold isFinite
  cases measured : n.measure with
  | exact a =>
    rw [somewhere.mpr ⟨a, measured⟩]
    cases n.checkRange <;> rfl
  | _ =>
    have missing : n.rational?.isSome = false := by simpa [measured] using somewhere
    rw [missing]
    cases n.checkRange <;> rfl

theorem isFinite_eq_ok_iff {b : Bool} :
    n.isFinite = .ok b ↔ n.checkRange = .ok () ∧ b = n.rational?.isSome := by
  rw [isFinite_eq]
  cases n.checkRange <;> simp [Functor.map, Except.map, eq_comm]

theorem isFinite_of_isNaN {b : Bool} (answers : n.isNaN = .ok b) : n.isFinite = .ok n.rational?.isSome := by
  obtain ⟨_, range, _⟩ := Search.bind_eq_ok_iff.mp answers
  exact isFinite_eq_ok_iff.mpr ⟨range, rfl⟩

theorem isNaN_of_isFinite (finite : n.isFinite = .ok true) : n.isNaN = .ok false := by
  obtain ⟨range, somewhere⟩ := isFinite_eq_ok_iff.mp finite
  unfold isNaN
  rw [range]
  cases n with
  | float x =>
    cases x with
    | nan => simp [rational?] at somewhere
    | _ => rfl
  | decimal d =>
    cases d with
    | nan => simp [rational?] at somewhere
    | _ => rfl
  | _ => rfl

theorem toInteger_of_rational? (exactly : n.rational? = some q) : n.toInteger = .ok (integerPart q) := by
  cases n with
  | int z =>
    obtain rfl := Option.some.inj exactly
    rw [toInteger, integerPart, Rat.num_intCast, Rat.den_intCast, Nat.cast_one, Int.tdiv_one]
  | fraction p =>
    obtain rfl := Option.some.inj exactly
    rfl
  | unmeasured => simp [rational?] at exactly
  | float x =>
    obtain ⟨a, measured, rfl⟩ := rational?_eq_some_iff.mp exactly
    have measured : x.measure = .exact a := measured
    rw [toInteger, measured, ← a.truncate_eq]
  | decimal d =>
    obtain ⟨a, measured, rfl⟩ := rational?_eq_some_iff.mp exactly
    have measured : d.measure = .exact a := measured
    rw [toInteger, measured, ← a.truncate_eq]

theorem same_integerPart (exactly : n.rational? = some q) : n.same (.int (integerPart q)) = q.isInt := by
  rw [Bool.eq_iff_iff, same_iff, isInt_iff_eq_integerPart, place?_eq_some_iff.mpr exactly]
  have part : (int (integerPart q)).place? = some (((integerPart q : ℚ) : WithTop ℚ) : Place) :=
    place?_eq_some_iff.mpr rfl
  rw [part]
  simp [eq_comm]

end Number

end Criteria
