import Criteria.Proofs.Value.Order
import Mathlib.Data.List.Forall2

set_option autoImplicit false
set_option relaxedAutoImplicit false

/-!
# Equality of values, and equality in turn

Equality can be seen from either side, and what equals an equal value is equal. For values without order it
is a partial equivalence: numbers of all forms are equal where they have one place, sequences item by item,
sets and mappings by what is in both. Only the order of keys breaks it, which counts between two ordered
mappings and not between either of them and another mapping.
-/

namespace Criteria

section Lists

variable {α : Type} {R : α → α → Prop} {first second third : List α}

/-- Every item of one list is related to an item of the other, and the other way round. -/
structure Matched (R : α → α → Prop) (first second : List α) : Prop where
  forth : ∀ a ∈ first, ∃ b ∈ second, R a b
  back : ∀ b ∈ second, ∃ a ∈ first, R a b

theorem Matched.symm (matched : Matched R first second) (symm : ∀ a ∈ first, ∀ b, R a b → R b a) :
    Matched R second first := by
  constructor
  · intro b member
    obtain ⟨a, inFirst, related⟩ := matched.back b member
    exact ⟨a, inFirst, symm a inFirst b related⟩
  · intro a member
    obtain ⟨b, inSecond, related⟩ := matched.forth a member
    exact ⟨b, inSecond, symm a member b related⟩

theorem Matched.trans (matched : Matched R first second) (matched' : Matched R second third)
    (trans : ∀ a ∈ first, ∀ b c, R a b → R b c → R a c) : Matched R first third := by
  constructor
  · intro a member
    obtain ⟨b, inSecond, related⟩ := matched.forth a member
    obtain ⟨c, inThird, related'⟩ := matched'.forth b inSecond
    exact ⟨c, inThird, trans a member b c related related'⟩
  · intro c member
    obtain ⟨b, inSecond, related'⟩ := matched'.back c member
    obtain ⟨a, inFirst, related⟩ := matched.back b inSecond
    exact ⟨a, inFirst, trans a inFirst b c related related'⟩

theorem forall₂_symm (aligned : List.Forall₂ R first second) (symm : ∀ a ∈ first, ∀ b, R a b → R b a) :
    List.Forall₂ R second first := by
  induction aligned with
  | nil => exact .nil
  | cons related _ ih =>
    rw [List.forall_mem_cons] at symm
    exact .cons (symm.1 _ related) (ih symm.2)

theorem forall₂_trans (aligned : List.Forall₂ R first second) (aligned' : List.Forall₂ R second third)
    (trans : ∀ a ∈ first, ∀ b c, R a b → R b c → R a c) : List.Forall₂ R first third := by
  induction aligned generalizing third with
  | nil => exact aligned'
  | cons related _ ih =>
    rw [List.forall_mem_cons] at trans
    cases aligned' with
    | cons related' rest => exact .cons (trans.1 _ _ related related') (ih rest trans.2)

end Lists

theorem DateTime.same_iff {t t' : DateTime} :
    t.same t' = true ↔ t.offset.isSome = t'.offset.isSome ∧ t.micros = t'.micros := by
  rw [same, beq_iff_eq, order?_eq_some_iff, Std.LawfulEqOrd.compare_eq_iff_eq]

namespace Value

/-- What equality looks into: items, members, keys and what stands under them. -/
def components : Value → List Value
  | .array _ items => items
  | .set _ items => items
  | .mapping _ entries => entries.map Prod.fst ++ entries.map Prod.snd
  | _ => []

theorem sizeOf_lt_of_mem_components {v w : Value} (member : w ∈ v.components) : sizeOf w < sizeOf v := by
  cases v with
  | array form items =>
    have smaller : sizeOf w < sizeOf items := List.sizeOf_lt_of_mem member
    simp only [array.sizeOf_spec]
    omega
  | set frozen items =>
    have smaller : sizeOf w < sizeOf items := List.sizeOf_lt_of_mem member
    simp only [set.sizeOf_spec]
    omega
  | mapping form entries =>
    simp only [components, List.mem_append, List.mem_map] at member
    rcases member with ⟨⟨key, held⟩, entry, rfl⟩ | ⟨⟨key, held⟩, entry, rfl⟩ <;>
    · have smaller := List.sizeOf_lt_of_mem entry
      simp only [Prod.mk.sizeOf_spec] at smaller
      simp only [mapping.sizeOf_spec]
      omega
  | _ => simp [components] at member

/-- What holds of a value when it holds of its components holds of all values. -/
@[elab_as_elim]
theorem componentInduction {motive : Value → Prop}
    (step : ∀ v, (∀ w ∈ v.components, motive w) → motive v) (v : Value) : motive v :=
  step v fun w _member => componentInduction step w
termination_by sizeOf v
decreasing_by exact sizeOf_lt_of_mem_components _member

def SameEntry (e e' : Value × Value) : Prop := same e.1 e'.1 = true ∧ same e.2 e'.2 = true

theorem sameItems_iff {items items' : List Value} :
    sameItems items items' = true ↔ List.Forall₂ (fun a b => same a b = true) items items' := by
  induction items generalizing items' with
  | nil => cases items' <;> simp [sameItems]
  | cons a rest ih => cases items' <;> simp [sameItems, ih]

theorem included_iff {items items' : List Value} :
    included items items' = true ↔ ∀ a ∈ items, ∃ b ∈ items', same a b = true := by
  induction items with
  | nil => simp [included]
  | cons a rest ih => simp [included, ih]

theorem memberOf_iff {items : List Value} {b : Value} :
    memberOf items b = true ↔ ∃ a ∈ items, same a b = true := by
  induction items with
  | nil => simp [memberOf]
  | cons a rest ih => simp [memberOf, ih]

theorem entriesIncluded_iff {entries entries' : List (Value × Value)} :
    entriesIncluded entries entries' = true ↔ ∀ e ∈ entries, ∃ e' ∈ entries', SameEntry e e' := by
  induction entries with
  | nil => simp [entriesIncluded]
  | cons e rest ih =>
    rw [entriesIncluded, Bool.and_eq_true, ih, List.forall_mem_cons, List.any_eq_true]
    simp only [SameEntry, Bool.and_eq_true]

theorem entryOf_iff {entries : List (Value × Value)} {e' : Value × Value} :
    entryOf entries e'.1 e'.2 = true ↔ ∃ e ∈ entries, SameEntry e e' := by
  induction entries with
  | nil => simp [entryOf]
  | cons e rest ih =>
    rw [entryOf, Bool.or_eq_true, ih, Bool.and_eq_true, List.exists_mem_cons_iff]
    rfl

theorem keysAligned_iff {entries entries' : List (Value × Value)} :
    keysAligned entries entries' = true ↔
      List.Forall₂ (fun e e' => same e.1 e'.1 = true) entries entries' := by
  induction entries generalizing entries' with
  | nil => cases entries' <;> simp [keysAligned]
  | cons e rest ih =>
    cases entries' with
    | nil => simp [keysAligned]
    | cons e' rest' => rw [keysAligned, Bool.and_eq_true, ih, List.forall₂_cons]

theorem same_array_iff {form form' : ArrayForm} {items items' : List Value} :
    same (.array form items) (.array form' items') = true ↔
      form = form' ∧ List.Forall₂ (fun a b => same a b = true) items items' := by
  rw [same, Bool.and_eq_true, beq_iff_eq, sameItems_iff]

theorem same_set_iff {frozen frozen' : Bool} {items items' : List Value} :
    same (.set frozen items) (.set frozen' items') = true ↔
      items.length = items'.length ∧ Matched (fun a b => same a b = true) items items' := by
  rw [same, Bool.and_eq_true, Bool.and_eq_true, beq_iff_eq, included_iff, List.all_eq_true]
  simp only [memberOf_iff]
  constructor
  · rintro ⟨⟨length, forth⟩, back⟩
    exact ⟨length, forth, back⟩
  · rintro ⟨length, matched⟩
    exact ⟨⟨length, matched.forth⟩, matched.back⟩

theorem same_mapping_iff {form form' : MapForm} {entries entries' : List (Value × Value)} :
    same (.mapping form entries) (.mapping form' entries') = true ↔
      entries.length = entries'.length ∧ Matched SameEntry entries entries' ∧
        (form = .ordered → form' = .ordered →
          List.Forall₂ (fun e e' => same e.1 e'.1 = true) entries entries') := by
  rw [same]
  simp only [Bool.and_eq_true, beq_iff_eq, entriesIncluded_iff, List.all_eq_true, entryOf_iff,
    Bool.or_eq_true, bne_iff_ne, keysAligned_iff]
  constructor
  · rintro ⟨⟨⟨length, forth⟩, back⟩, aligned⟩
    exact ⟨length, ⟨forth, back⟩, fun ordered ordered' => by simpa [ordered, ordered'] using aligned⟩
  · rintro ⟨length, matched, aligned⟩
    refine ⟨⟨⟨length, matched.forth⟩, matched.back⟩, ?_⟩
    by_cases ordered : form = .ordered
    · by_cases ordered' : form' = .ordered
      · exact .inr (aligned ordered ordered')
      · exact .inl (.inr ordered')
    · exact .inl (.inl ordered)

section Points

variable {v w : Value} {n m : Number} {re im : BinaryFloat}

/-- A place for the real part of a number and one for the imaginary part, which real numbers have at zero. -/
abbrev Point := Place × Place

/-- Where a number lies, a Boolean counting as 0 or 1, if it is somewhere. -/
def point? : Value → Option Point
  | .bool b => (boolNumber b).place?.map fun p => (p, Number.zero)
  | .number n => n.place?.map fun p => (p, Number.zero)
  | .complex re im => (Number.float re).place?.bind fun p => (Number.float im).place?.map fun q => (p, q)
  | _ => none

theorem same_of_number? (left : v.number? = some n) (right : w.number? = some m) :
    same v w = n.same m := by
  cases v with
  | number n =>
    obtain rfl := Option.some.inj left
    cases w with
    | number m =>
      obtain rfl := Option.some.inj right
      rw [same]
    | bool b =>
      obtain rfl := Option.some.inj right
      rw [same]
    | _ => simp [number?] at right
  | bool a =>
    obtain rfl := Option.some.inj left
    cases w with
    | number m =>
      obtain rfl := Option.some.inj right
      rw [same]
    | bool b =>
      obtain rfl := Option.some.inj right
      cases a <;> cases b <;> decide +kernel
    | _ => simp [number?] at right
  | _ => simp [number?] at left

theorem same_complex_of_number? (right : w.number? = some m) :
    same (.complex re im) w = complexSame re im m ∧ same w (.complex re im) = complexSame re im m := by
  cases w with
  | number n =>
    obtain rfl := Option.some.inj right
    exact ⟨by rw [same], by rw [same]⟩
  | bool b =>
    obtain rfl := Option.some.inj right
    exact ⟨by rw [same], by rw [same]⟩
  | _ => simp [number?] at right

theorem point?_of_number? (number : v.number? = some n) :
    v.point? = n.place?.map fun p => (p, Number.zero) := by
  cases v with
  | number m =>
    obtain rfl := Option.some.inj number
    rfl
  | bool b =>
    obtain rfl := Option.some.inj number
    rfl
  | _ => simp [number?] at number

theorem point?_complex : (complex re im).point? =
    (Number.float re).place?.bind fun p => (Number.float im).place?.map fun q => (p, q) := rfl

def IsNumeric (v : Value) : Prop := (∃ n, v.number? = some n) ∨ ∃ re im, v = .complex re im

theorem isNumeric_of_point? {p : Point} (somewhere : v.point? = some p) : v.IsNumeric := by
  cases v with
  | number n => exact .inl ⟨n, rfl⟩
  | bool b => exact .inl ⟨boolNumber b, rfl⟩
  | complex re im => exact .inr ⟨re, im, rfl⟩
  | _ => simp [point?] at somewhere

theorem complexSame_iff : complexSame re im m = true ↔
    ∃ p, (complex re im).point? = some p ∧ (m.place?.map fun p => (p, Number.zero)) = some p := by
  rw [complexSame, Bool.and_eq_true, ← Number.place?_float_eq_zero_iff, Number.same_iff, point?_complex]
  constructor
  · rintro ⟨imaginary, p, real, same⟩
    exact ⟨(p, Number.zero), by simp [real, imaginary], by simp [same]⟩
  · rintro ⟨p, first, second⟩
    obtain ⟨q, same, rfl⟩ := Option.map_eq_some_iff.mp second
    obtain ⟨r, real, rest⟩ := Option.bind_eq_some_iff.mp first
    obtain ⟨i, imaginary, at_⟩ := Option.map_eq_some_iff.mp rest
    obtain ⟨rfl, rfl⟩ := Prod.mk.inj at_
    exact ⟨imaginary, r, real, same⟩

theorem isNumeric_of_same (equal : same v w = true) (left : v.IsNumeric) : w.IsNumeric := by
  cases w with
  | number m => exact .inl ⟨m, rfl⟩
  | bool b => exact .inl ⟨boolNumber b, rfl⟩
  | complex re im => exact .inr ⟨re, im, rfl⟩
  | _ =>
    rcases left with ⟨n, left⟩ | ⟨re, im, rfl⟩
    · cases v <;> simp [number?, same] at left equal
    · simp [same] at equal

theorem same_iff_point? (left : v.IsNumeric) (right : w.IsNumeric) :
    same v w = true ↔ ∃ p, v.point? = some p ∧ w.point? = some p := by
  rcases left with ⟨n, left⟩ | ⟨re, im, rfl⟩
  · rcases right with ⟨m, right⟩ | ⟨re, im, rfl⟩
    · rw [same_of_number? left right, Number.same_iff, point?_of_number? left, point?_of_number? right]
      constructor
      · rintro ⟨p, first, second⟩
        exact ⟨(p, Number.zero), by simp [first], by simp [second]⟩
      · rintro ⟨p, first, second⟩
        obtain ⟨q, left, rfl⟩ := Option.map_eq_some_iff.mp first
        obtain ⟨q', right, at_⟩ := Option.map_eq_some_iff.mp second
        obtain ⟨rfl, _⟩ := Prod.mk.inj at_
        exact ⟨q', left, right⟩
    · rw [(same_complex_of_number? left).2, complexSame_iff, point?_of_number? left]
      simp only [and_comm]
  · rcases right with ⟨m, right⟩ | ⟨re', im', rfl⟩
    · rw [(same_complex_of_number? right).1, complexSame_iff, point?_of_number? right]
    · rw [same, Bool.and_eq_true, Number.same_iff, Number.same_iff, point?_complex, point?_complex]
      constructor
      · rintro ⟨⟨p, real, real'⟩, q, imaginary, imaginary'⟩
        exact ⟨(p, q), by simp [real, imaginary], by simp [real', imaginary']⟩
      · rintro ⟨⟨p, q⟩, first, second⟩
        simp only [Option.bind_eq_some_iff, Option.map_eq_some_iff, Prod.mk.injEq] at first second
        obtain ⟨_, real, _, imaginary, rfl, rfl⟩ := first
        obtain ⟨_, real', _, imaginary', rfl, rfl⟩ := second
        exact ⟨⟨_, real, real'⟩, _, imaginary, imaginary'⟩

end Points

/-- The ways in which two values are equal. -/
inductive EqualAs : Value → Value → Prop
  | numbers {v w : Value} {p : Point} : v.point? = some p → w.point? = some p → EqualAs v w
  | atoms {v : Value} : same v v = true → EqualAs v v
  | times {t t' : DateTime} : t.same t' = true → EqualAs (.dateTime t) (.dateTime t')
  | sequences {form : ArrayForm} {items items' : List Value} :
      List.Forall₂ (fun a b => same a b = true) items items' →
      EqualAs (.array form items) (.array form items')
  | sets {frozen frozen' : Bool} {items items' : List Value} :
      items.length = items'.length → Matched (fun a b => same a b = true) items items' →
      EqualAs (.set frozen items) (.set frozen' items')
  | mappings {form form' : MapForm} {entries entries' : List (Value × Value)} :
      entries.length = entries'.length → Matched SameEntry entries entries' →
      (form = .ordered → form' = .ordered →
        List.Forall₂ (fun e e' => same e.1 e'.1 = true) entries entries') →
      EqualAs (.mapping form entries) (.mapping form' entries')

theorem equalAs_of_same {v w : Value} (equal : same v w = true) : EqualAs v w := by
  have numeric (left : v.IsNumeric) : EqualAs v w := by
    obtain ⟨p, first, second⟩ := (same_iff_point? left (isNumeric_of_same equal left)).mp equal
    exact .numbers first second
  have atom (itself : v = w) : EqualAs v w := by
    subst itself
    exact .atoms equal
  cases v with
  | bool b => exact numeric (.inl ⟨boolNumber b, rfl⟩)
  | number n => exact numeric (.inl ⟨n, rfl⟩)
  | complex re im => exact numeric (.inr ⟨re, im, rfl⟩)
  | undefined | null | text | bytes | pattern | date | function =>
    -- These have no parts and are no numbers, so that only equal data make them equal.
    refine atom ?_
    cases w <;> simp_all [same]
  | dateTime t => cases w with
    | dateTime t' => exact .times (by simpa [same] using equal)
    | _ => simp [same] at equal
  | array form items => cases w with
    | array form' items' =>
      obtain ⟨rfl, aligned⟩ := same_array_iff.mp equal
      exact .sequences aligned
    | _ => simp [same] at equal
  | set frozen items => cases w with
    | set frozen' items' =>
      obtain ⟨length, matched⟩ := same_set_iff.mp equal
      exact .sets length matched
    | _ => simp [same] at equal
  | mapping form entries => cases w with
    | mapping form' entries' =>
      obtain ⟨length, matched, aligned⟩ := same_mapping_iff.mp equal
      exact .mappings length matched aligned
    | _ => simp [same] at equal
  | _ => simp [same] at equal

theorem same_of_equalAs {v w : Value} (equal : EqualAs v w) : same v w = true := by
  cases equal with
  | numbers first second =>
    exact (same_iff_point? (isNumeric_of_point? first) (isNumeric_of_point? second)).mpr ⟨_, first, second⟩
  | atoms equal => exact equal
  | times equal => rwa [same]
  | sequences aligned => exact same_array_iff.mpr ⟨rfl, aligned⟩
  | sets length matched => exact same_set_iff.mpr ⟨length, matched⟩
  | mappings length matched aligned => exact same_mapping_iff.mpr ⟨length, matched, aligned⟩

section Equivalence

variable {form : MapForm} {entries : List (Value × Value)} {e : Value × Value}

theorem key_mem_components (member : e ∈ entries) : e.1 ∈ (mapping form entries).components :=
  List.mem_append_left _ (List.mem_map_of_mem member)

theorem value_mem_components (member : e ∈ entries) : e.2 ∈ (mapping form entries).components :=
  List.mem_append_right _ (List.mem_map_of_mem member)

theorem same_symm {v w : Value} (equal : same v w = true) : same w v = true := by
  induction v using componentInduction generalizing w with
  | step v ih =>
    cases equalAs_of_same equal with
    | numbers first second => exact same_of_equalAs (.numbers second first)
    | atoms => exact equal
    | times instants =>
      obtain ⟨alike, instant⟩ := DateTime.same_iff.mp instants
      exact same_of_equalAs (.times (DateTime.same_iff.mpr ⟨alike.symm, instant.symm⟩))
    | sequences aligned =>
      exact same_array_iff.mpr ⟨rfl, forall₂_symm aligned fun a member _ => ih a member⟩
    | sets length matched =>
      exact same_set_iff.mpr ⟨length.symm, matched.symm fun a member _ => ih a member⟩
    | @mappings form _ entries _ length matched aligned =>
      have entry (e) (member : e ∈ entries) (e') (related : SameEntry e e') : SameEntry e' e :=
        ⟨ih _ (key_mem_components member) related.1, ih _ (value_mem_components member) related.2⟩
      refine same_mapping_iff.mpr ⟨length.symm, matched.symm entry, fun ordered' ordered => ?_⟩
      exact forall₂_symm (aligned ordered ordered') fun e member _ => ih _ (key_mem_components member)

theorem untie_of_same {v w : Value} (equal : same v w = true) : v.untie = v := by
  cases v with
  | knot nodes root => simp [same] at equal
  | _ => rfl

mutual

/-- Whether there is no ordered mapping in a value, at any depth. -/
def isUnordered : Value → Bool
  | .array _ items => allUnordered items
  | .set _ items => allUnordered items
  | .mapping form entries => form != .ordered && entriesUnordered entries
  | _ => true

def allUnordered : List Value → Bool
  | [] => true
  | v :: rest => v.isUnordered && allUnordered rest

def entriesUnordered : List (Value × Value) → Bool
  | [] => true
  | (k, v) :: rest => k.isUnordered && v.isUnordered && entriesUnordered rest

end

theorem allUnordered_iff {items : List Value} :
    allUnordered items = true ↔ ∀ v ∈ items, v.isUnordered = true := by
  induction items with
  | nil => simp [allUnordered]
  | cons v rest ih => simp [allUnordered, ih]

theorem entriesUnordered_iff {entries : List (Value × Value)} :
    entriesUnordered entries = true ↔ ∀ e ∈ entries, e.1.isUnordered = true ∧ e.2.isUnordered = true := by
  induction entries with
  | nil => simp [entriesUnordered]
  | cons e rest ih => rw [entriesUnordered, Bool.and_eq_true, Bool.and_eq_true, ih, List.forall_mem_cons]

theorem isUnordered_of_mem_components {v w : Value} (unordered : v.isUnordered = true)
    (member : w ∈ v.components) : w.isUnordered = true := by
  cases v with
  | array form items => exact allUnordered_iff.mp unordered w member
  | set frozen items => exact allUnordered_iff.mp unordered w member
  | mapping form entries =>
    have all := entriesUnordered_iff.mp (Bool.and_eq_true_iff.mp unordered).2
    simp only [components, List.mem_append, List.mem_map] at member
    rcases member with ⟨e, entry, rfl⟩ | ⟨e, entry, rfl⟩
    · exact (all e entry).1
    · exact (all e entry).2
  | _ => simp [components] at member

theorem same_trans {u v w : Value} (unordered : u.isUnordered = true) (first : same u v = true)
    (second : same v w = true) : same u w = true := by
  induction u using componentInduction generalizing v w with
  | step u ih =>
    have ih (a) (member : a ∈ u.components) (b c) (left : same a b = true) (right : same b c = true) :
        same a c = true := ih a member (isUnordered_of_mem_components unordered member) left right
    cases equalAs_of_same first with
    | atoms => exact second
    | @numbers _ _ p left middle =>
      cases equalAs_of_same second with
      | atoms => exact first
      | @numbers _ _ q middle' right =>
        obtain rfl : p = q := Option.some.inj (middle.symm.trans middle')
        exact same_of_equalAs (.numbers left right)
      | _ => simp [point?] at middle
    | times left =>
      cases equalAs_of_same second with
      | atoms => exact first
      | numbers somewhere => simp [point?] at somewhere
      | times right =>
        obtain ⟨alike, instant⟩ := DateTime.same_iff.mp left
        obtain ⟨alike', instant'⟩ := DateTime.same_iff.mp right
        exact same_of_equalAs (.times (DateTime.same_iff.mpr ⟨alike.trans alike', instant.trans instant'⟩))
    | sequences aligned =>
      cases equalAs_of_same second with
      | atoms => exact first
      | numbers somewhere => simp [point?] at somewhere
      | sequences aligned' => exact same_array_iff.mpr ⟨rfl, forall₂_trans aligned aligned' ih⟩
    | sets length matched =>
      cases equalAs_of_same second with
      | atoms => exact first
      | numbers somewhere => simp [point?] at somewhere
      | sets length' matched' =>
        exact same_set_iff.mpr ⟨length.trans length', matched.trans matched' ih⟩
    | @mappings form _ entries _ length matched aligned =>
      cases equalAs_of_same second with
      | atoms => exact first
      | numbers somewhere => simp [point?] at somewhere
      | mappings length' matched' aligned' =>
        have entry (e) (member : e ∈ entries) (e' e'') (left : SameEntry e e') (right : SameEntry e' e'') :
            SameEntry e e'' :=
          ⟨ih _ (key_mem_components member) _ _ left.1 right.1,
            ih _ (value_mem_components member) _ _ left.2 right.2⟩
        -- Only where the outer mappings are both ordered would the one between have to tell the order.
        have inOrder : form ≠ .ordered := bne_iff_ne.mp (Bool.and_eq_true_iff.mp unordered).1
        exact same_mapping_iff.mpr ⟨length.trans length', matched.trans matched' entry,
          fun ordered => absurd ordered inOrder⟩

end Equivalence

theorem strictEquals_iff {v w : Value} : v.strictEquals w = .ok true ↔
    (v.kind = w.kind ∧ same v w = true) ∧ v.isNaN = .ok false ∧ w.isNaN = .ok false := by
  by_cases kinds : v.kind = w.kind
  · by_cases numeric : v.kind = .number
    · obtain ⟨n, rfl⟩ := eq_number_of_kind numeric
      obtain ⟨m, rfl⟩ := eq_number_of_kind (kinds.symm.trans numeric)
      simp only [strictEquals, kind, untie, bne_self_eq_false, Bool.false_eq_true, if_false,
        beq_self_eq_true, if_true, true_and, isNaN]
      cases n.isNaN with
      | error f => simp [bind, Except.bind]
      | ok first =>
        cases m.isNaN with
        | error f => cases first <;> simp [bind, Except.bind, pure, Except.pure]
        | ok second => cases first <;> cases second <;> simp [bind, Except.bind, pure, Except.pure]
    · have isNumber {u : Value} (other : u.kind ≠ .number) : u.isNaN = .ok false := by
        cases u with
        | number n => exact absurd rfl other
        | _ => rfl
      have other : w.kind ≠ .number := fun numeric' => numeric (kinds.trans numeric')
      have answer : v.strictEquals w = .ok true ↔ same v w = true := by
        rw [strictEquals, if_neg (by simpa using kinds), if_neg (by simpa using numeric)]
        cases same v w with
        | true => simp
        | false => cases endless v w <;> simp
      simp [answer, isNumber numeric, isNumber other, kinds]
  · simp [strictEquals, kinds]

end Value

/-- Equality can be seen from either side, and what equals an equal value is equal, unless an ordered mapping
is in it: it may differ in order from a mapping that equals one without order. -/
theorem strictEquals_symm_trans (a b : Value) :
    (a.strictEquals b = .ok true ↔ b.strictEquals a = .ok true) ∧
      ∀ c, a.isUnordered = true → a.strictEquals b = .ok true → b.strictEquals c = .ok true →
        a.strictEquals c = .ok true := by
  have symm {v w : Value} (equal : v.strictEquals w = .ok true) : w.strictEquals v = .ok true := by
    obtain ⟨⟨kinds, same⟩, left, right⟩ := Value.strictEquals_iff.mp equal
    exact Value.strictEquals_iff.mpr ⟨⟨kinds.symm, Value.same_symm same⟩, right, left⟩
  refine ⟨⟨symm, symm⟩, ?_⟩
  intro c unordered first second
  obtain ⟨⟨kinds, same⟩, left, _⟩ := Value.strictEquals_iff.mp first
  obtain ⟨⟨kinds', same'⟩, _, right⟩ := Value.strictEquals_iff.mp second
  exact Value.strictEquals_iff.mpr
    ⟨⟨kinds.trans kinds', Value.same_trans unordered same same'⟩, left, right⟩

/-- Numbers of three forms in lists in mappings, with entries in another order. -/
theorem strictEquals_symm_trans_of_numbers :
    let whole : Value := .plain [(.text "a", .list [.int 1]), (.text "b", .null)]
    let decimal : Value := .plain [(.text "b", .null), (.text "a", .list [.number (.decimal (.finite false 10 (-1)))])]
    let float : Value := .plain [(.text "a", .list [.number (.float (.finite false 1 0))]), (.text "b", .null)]
    whole.isUnordered = true ∧ whole.strictEquals decimal = .ok true ∧
      decimal.strictEquals float = .ok true ∧ whole.strictEquals float = .ok true ∧
      decimal.strictEquals whole = .ok true := by
  intro whole decimal float
  have unordered : whole.isUnordered = true := by decide
  have first : whole.strictEquals decimal = .ok true := by decide +kernel
  have second : decimal.strictEquals float = .ok true := by decide +kernel
  obtain ⟨symm, trans⟩ := strictEquals_symm_trans whole decimal
  exact ⟨unordered, first, second, trans float unordered first second, symm.mp first⟩

/-- Two ordered mappings of different order equal one view, and not each other. -/
example :
    let forth : Value := .mapping .ordered [(.text "a", .null), (.text "b", .null)]
    let back : Value := .mapping .ordered [(.text "b", .null), (.text "a", .null)]
    let view : Value := .mapping .view [(.text "a", .null), (.text "b", .null)]
    forth.strictEquals view = .ok true ∧ view.strictEquals back = .ok true ∧
      forth.strictEquals back = .ok false := by
  decide +kernel

end Criteria
