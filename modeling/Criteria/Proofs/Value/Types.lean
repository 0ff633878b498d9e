import Criteria.Proofs.Number.Integrality
import Criteria.Proofs.Value.Equality
import Criteria.Value.Conversion

set_option autoImplicit false
set_option relaxedAutoImplicit false

/-!
# Types of values

A finite number is an integer or a float by the rational that it stands for, which is told by comparing the
number with its integer part, and nothing else is either of them. Equal values are of the same types, since
every type goes by the kind of a value, by the rational of a number, or by what a Boolean or a text is.
-/

namespace Criteria

namespace Value

variable {v w name : Value} {n m : Number} {b : Bool}

def rational? : Value → Option ℚ
  | .number n => n.rational?
  | _ => none

theorem isWhole_number (n : Number) : (number n).isWhole = n.rational?.any Rat.isInt := by
  cases exactly : n.rational? with
  | some q =>
    obtain ⟨a, measured, rfl⟩ := Number.rational?_eq_some_iff.mp exactly
    simp [isWhole, measured, a.isInteger_eq]
  | none =>
    have nowhere (a : Scaled) : n.measure ≠ .exact a := fun measured =>
      absurd (Number.rational?_eq_some_iff.mpr ⟨a, measured, rfl⟩) (by simp [exactly])
    cases measured : n.measure with
    | exact a => exact absurd measured (nowhere a)
    | _ => simp [isWhole, measured]

theorem rational?_isSome_of_isFinite (finite : v.isFinite = .ok b) : b = v.rational?.isSome := by
  cases v with
  | number n => exact (Number.isFinite_eq_ok_iff.mp finite).2
  | _ => exact (Except.ok.inj finite).symm

theorem hasType_of_isFinite (finite : v.isFinite = .ok b) :
    v.hasType .integer = .ok (v.rational?.any Rat.isInt) ∧
      v.hasType .float = .ok (v.rational?.any fun q => !q.isInt) := by
  have somewhere := rational?_isSome_of_isFinite finite
  have whole : v.isWhole = v.rational?.any Rat.isInt := by
    cases v with
    | number n => exact isWhole_number n
    | _ => rfl
  rw [somewhere] at finite
  simp only [hasType, finite, whole]
  cases v.rational? <;> exact ⟨rfl, rfl⟩

theorem hasType_of_isNaN (isNumber : n.isNaN = .ok false) :
    (number n).hasType .truthy = .ok (n.rational? != some 0) ∧
      (number n).hasType .falsy = .ok (n.rational? == some 0) := by
  have zero : n.isZero = (n.rational? == some 0) := by
    rw [Bool.eq_iff_iff, beq_iff_eq, Number.isZero_iff]
  simp only [hasType, isFalsy, isTruthy, isNumber, zero, bne]
  cases n.rational? == some 0 <;> exact ⟨rfl, rfl⟩

def AgreeOn (v w : Value) (type : NamedType) : Prop :=
  ∃ answer, v.hasType type = .ok answer ∧ w.hasType type = .ok answer

theorem agreeOn_of_numbers (isNumber : n.isNaN = .ok false) (isNumber' : m.isNaN = .ok false)
    (alike : n.rational? = m.rational?) (type : NamedType) : (number n).AgreeOn (number m) type := by
  have finite : (number n).isFinite = .ok n.rational?.isSome := Number.isFinite_of_isNaN isNumber
  have finite' : (number m).isFinite = .ok m.rational?.isSome := Number.isFinite_of_isNaN isNumber'
  obtain ⟨integer, float⟩ := hasType_of_isFinite finite
  obtain ⟨integer', float'⟩ := hasType_of_isFinite finite'
  obtain ⟨truthy, falsy⟩ := hasType_of_isNaN isNumber
  obtain ⟨truthy', falsy'⟩ := hasType_of_isNaN isNumber'
  rw [rational?, ← alike] at integer' float'
  rw [← alike] at truthy' falsy'
  cases type with
  | integer => exact ⟨_, integer, integer'⟩
  | float => exact ⟨_, float, float'⟩
  | truthy => exact ⟨_, truthy, truthy'⟩
  | falsy => exact ⟨_, falsy, falsy'⟩
  | _ => exact ⟨_, rfl, rfl⟩

theorem isTruthy_of_same (kinds : v.kind = w.kind) (other : v.kind ≠ .number) (equal : same v w = true) :
    ∃ answer, v.isTruthy = .ok answer ∧ w.isTruthy = .ok answer := by
  cases equalAs_of_same equal with
  | numbers first second =>
    -- Of the values of one kind that lie at a point only a Boolean can be false, and its point tells which it is.
    cases v with
    | bool a =>
      cases w with
      | bool b =>
        have alike : a = b := by simpa [same] using equal
        exact ⟨b, congrArg Except.ok alike, rfl⟩
      | number m => simp [kind, untie] at kinds
      | complex re im => simp [kind, untie] at kinds
      | _ => simp [point?] at second
    | number n => exact absurd rfl other
    | complex re im =>
      cases w with
      | complex re' im' => exact ⟨true, rfl, rfl⟩
      | bool b => simp [kind, untie] at kinds
      | number m => simp [kind, untie] at kinds
      | _ => simp [point?] at second
    | _ => simp [point?] at first
  | atoms =>
    cases v with
    | number n => exact absurd rfl other
    | _ => exact ⟨_, rfl, rfl⟩
  | times => exact ⟨true, rfl, rfl⟩
  | sequences => exact ⟨true, rfl, rfl⟩
  | sets => exact ⟨true, rfl, rfl⟩
  | mappings => exact ⟨true, rfl, rfl⟩

theorem agreeOn_of_same (kinds : v.kind = w.kind) (other : v.kind ≠ .number) (equal : same v w = true)
    (type : NamedType) : v.AgreeOn w type := by
  have infinite {u : Value} (kind : u.kind ≠ .number) : u.isFinite = .ok false := by
    cases u with
    | number n => exact absurd rfl kind
    | _ => rfl
  have left : v.isFinite = .ok false := infinite other
  have right : w.isFinite = .ok false := infinite (kinds ▸ other)
  obtain ⟨truth, truthy, truthy'⟩ := isTruthy_of_same kinds other equal
  cases type with
  | integer | float =>
    exact ⟨false, by rw [hasType, left]; rfl, by rw [hasType, right]; rfl⟩
  | truthy => exact ⟨truth, truthy, truthy'⟩
  | falsy => exact ⟨!truth, by rw [hasType, isFalsy, truthy]; rfl, by rw [hasType, isFalsy, truthy']; rfl⟩
  | _ => exact ⟨_, rfl, by rw [hasType, kinds]⟩

theorem agreeOn_of_strictEquals (equal : v.strictEquals w = .ok true) (type : NamedType) :
    v.AgreeOn w type := by
  obtain ⟨⟨kinds, same⟩, left, right⟩ := strictEquals_iff.mp equal
  by_cases numeric : v.kind = .number
  · obtain ⟨n, rfl⟩ := eq_number_of_kind numeric
    obtain ⟨m, rfl⟩ := eq_number_of_kind (kinds.symm.trans numeric)
    obtain ⟨p, here, there⟩ := Number.same_iff.mp (by rwa [Value.same] at same)
    exact agreeOn_of_numbers left right (Number.rational?_congr (here.trans there.symm)) type
  · exact agreeOn_of_same kinds numeric same type

theorem checkType_of_named {type : NamedType} (named : name.namedType? = some type) :
    v.checkType name = v.hasType type := by
  rw [checkType, named]

theorem isFinite_eq_true_iff : v.isFinite = .ok true ↔
    (∃ q, v.rational? = some q) ∧ ∀ n f, v = .number n → ¬ n.OutOfRange f := by
  cases v with
  | number n =>
    rw [isFinite, rational?, ← Option.isSome_iff_exists]
    constructor
    · intro finite
      refine ⟨(Number.isFinite_eq_ok_iff.mp finite).2.symm, ?_⟩
      rintro m f ⟨⟩ large
      rw [Number.isFinite_eq_error_iff.mpr large] at finite
      simp at finite
    · rintro ⟨somewhere, within⟩
      cases answer : n.isFinite with
      | error f => exact absurd (Number.isFinite_eq_error_iff.mp answer) (within n f rfl)
      | ok b => rw [(Number.isFinite_eq_ok_iff.mp answer).2, somewhere]
  | _ => simp [isFinite, rational?]

theorem namedType?_integer : (text "integer").namedType? = some .integer := by decide

theorem namedType?_float : (text "float").namedType? = some .float := by decide

end Value

/-- A finite number is of one of two types, by whether the rational that it stands for is an integer, which is
told by comparing it with its integer part. What is not finite is of neither type, and where a number is out of
range neither type is told. -/
theorem integer_or_float (v : Value) :
    (v.isFinite = .ok true ↔
      (∃ q, v.rational? = some q) ∧ ∀ n f, v = .number n → ¬ n.OutOfRange f) ∧
    (v.isFinite = .ok true → ∃ q, v.rational? = some q ∧ ∃ whole : Bool, (whole = true ↔ ∃ z : Int, q = z) ∧
      v.checkType (.text "integer") = .ok whole ∧ v.checkType (.text "float") = .ok !whole ∧
      v.toInteger = .ok (integerPart q) ∧ v.same (.int (integerPart q)) = whole) ∧
    (v.isFinite = .ok false →
      v.checkType (.text "integer") = .ok false ∧ v.checkType (.text "float") = .ok false) ∧
    ∀ f, v.isFinite = .error f →
      v.checkType (.text "integer") = .error f ∧ v.checkType (.text "float") = .error f := by
  rw [Value.checkType_of_named Value.namedType?_integer, Value.checkType_of_named Value.namedType?_float]
  refine ⟨Value.isFinite_eq_true_iff, ?_, ?_, ?_⟩
  · intro finite
    obtain ⟨⟨q, exactly⟩, _⟩ := Value.isFinite_eq_true_iff.mp finite
    obtain ⟨integer, float⟩ := Value.hasType_of_isFinite finite
    rw [exactly] at integer float
    refine ⟨q, exactly, q.isInt, isInt_iff_exists q, integer, float, ?_⟩
    cases v with
    | number n =>
      refine ⟨Number.toInteger_of_rational? exactly, ?_⟩
      rw [Value.int, Value.same]
      exact Number.same_integerPart exactly
    | _ => simp [Value.rational?] at exactly
  · intro infinite
    obtain ⟨integer, float⟩ := Value.hasType_of_isFinite infinite
    have nowhere : v.rational? = none := by
      simpa using (Value.rational?_isSome_of_isFinite infinite).symm
    rw [nowhere] at integer float
    exact ⟨integer, float⟩
  · intro f stopped
    simp only [Value.hasType, stopped]
    exact ⟨rfl, rfl⟩

/-- Of two decimals that are written with tenths one is an integer; an infinity is neither, and of an integer
that is out of range it is not told. -/
theorem integer_or_float_of_tenths :
    let whole : Value := .number (.decimal (.finite true 250 (-1)))
    let half : Value := .number (.decimal (.finite true 25 (-1)))
    let infinite : Value := .number (.float (.infinite false))
    let large : Value := .int (Nat.pow 10 309 : Nat)
    (whole.isFinite = .ok true ∧ whole.checkType (.text "integer") = .ok true) ∧
      (half.isFinite = .ok true ∧ half.checkType (.text "float") = .ok true) ∧
      (infinite.isFinite = .ok false ∧ infinite.checkType (.text "float") = .ok false) ∧
      large.isFinite = .error .integerTooLarge ∧
        large.checkType (.text "integer") = .error .integerTooLarge := by
  intro whole half infinite large
  have finite : whole.isFinite = .ok true := by decide +kernel
  have finite' : half.isFinite = .ok true := by decide +kernel
  have far : infinite.isFinite = .ok false := by decide +kernel
  have beyond : large.isFinite = .error .integerTooLarge := by decide +kernel
  refine ⟨⟨finite, ?_⟩, ⟨finite', ?_⟩, ⟨far, ?_⟩, beyond, ?_⟩
  · obtain ⟨q, exactly, isInteger, told, integer, _⟩ := (integer_or_float whole).2.1 finite
    have value : q = (-25 : Int) := by
      rw [← Option.some.inj exactly, signed]
      norm_num
    rw [integer, told.mpr ⟨-25, value⟩]
  · obtain ⟨q, exactly, isInteger, told, _, float, _⟩ := (integer_or_float half).2.1 finite'
    have value : q = -5 / 2 := by
      rw [← Option.some.inj exactly, signed]
      norm_num
    have fractional : isInteger = false := by
      rw [Bool.eq_false_iff, ne_eq, told, ← isInt_iff_exists, value]
      decide +kernel
    rw [float, fractional]
    rfl
  · exact ((integer_or_float infinite).2.2.1 far).2
  · exact ((integer_or_float large).2.2.2 _ beyond).1

/-- Equal values are of the same types, by whatever name. A finite number is of the types that ask which number
it is by its rational alone, not by the form that it is held in. -/
theorem equal_values_have_same_types :
    (∀ v w : Value, v.strictEquals w = .ok true → ∀ name : Value,
      ∃ answer, v.checkType name = .ok answer ∧ w.checkType name = .ok answer) ∧
    ∀ (v : Value) (q : ℚ), v.isFinite = .ok true → v.rational? = some q →
      v.checkType (.text "integer") = .ok q.isInt ∧ v.checkType (.text "float") = .ok !q.isInt ∧
      v.checkType (.text "truthy") = .ok (q != 0) ∧ v.checkType (.text "falsy") = .ok (q == 0) := by
  constructor
  · intro v w equal name
    cases named : name.namedType? with
    | some type =>
      rw [Value.checkType_of_named named, Value.checkType_of_named named]
      exact Value.agreeOn_of_strictEquals equal type
    | none => exact ⟨false, by rw [Value.checkType, named], by rw [Value.checkType, named]⟩
  · intro v q finite exactly
    have truthy : (Value.text "truthy").namedType? = some .truthy := by decide
    have falsy : (Value.text "falsy").namedType? = some .falsy := by decide
    rw [Value.checkType_of_named Value.namedType?_integer, Value.checkType_of_named Value.namedType?_float,
      Value.checkType_of_named truthy, Value.checkType_of_named falsy]
    cases v with
    | number n =>
      obtain ⟨integer, float⟩ := Value.hasType_of_isFinite finite
      obtain ⟨truthy, falsy⟩ := Value.hasType_of_isNaN (Number.isNaN_of_isFinite finite)
      have exactly : n.rational? = some q := exactly
      rw [Value.rational?, exactly] at integer float
      rw [exactly] at truthy falsy
      exact ⟨integer, float, truthy, falsy⟩
    | _ => simp [Value.rational?] at exactly

/-- One half is equal in two forms, and of one type in both. -/
theorem equal_values_have_same_types_of_half :
    let float : Value := .number (.float (.finite false 1 (-1)))
    let decimal : Value := .number (.decimal (.finite false 50 (-2)))
    float.strictEquals decimal = .ok true ∧
      (∃ answer, float.checkType (.text "boolean") = .ok answer ∧
        decimal.checkType (.text "boolean") = .ok answer) ∧
      decimal.isFinite = .ok true ∧ decimal.rational? = some (1 / 2) ∧
      decimal.checkType (.text "float") = .ok true := by
  intro float decimal
  have equal : float.strictEquals decimal = .ok true := by decide +kernel
  have finite : decimal.isFinite = .ok true := by decide +kernel
  have exactly : decimal.rational? = some (1 / 2) := by
    change some (signed false _) = _
    rw [signed]
    norm_num
  obtain ⟨alike, told⟩ := equal_values_have_same_types
  refine ⟨equal, alike float decimal equal (.text "boolean"), finite, exactly, ?_⟩
  exact (told decimal (1 / 2) finite exactly).2.1.trans (congrArg Except.ok (by decide +kernel))

end Criteria
