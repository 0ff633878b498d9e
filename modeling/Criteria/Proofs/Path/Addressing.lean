import Criteria.Proofs.Path.Resolution

set_option autoImplicit false
set_option relaxedAutoImplicit false

/-!
# Addresses of sub-values

Every sub-value has an address: the keys, indices and attributes that lead to it, joined by dots. The path that
is written so selects just that sub-value.
-/

namespace Criteria

namespace Value

/-- The greatest number of items that a sequence can have: sizes are signed words of 64 bits. -/
def maxItems : Nat := 9223372036854775807

/-- No sequence within a value has more items than a sequence can have. -/
def Bounded : Value → Prop :=
  Throughout fun w => ∀ items, w.items? = some items → items.length ≤ maxItems

variable {v w : Value} {items : List Value}

theorem Bounded.of_no_parts (noItems : v.items? = none) (noParts : v.parts = []) : v.Bounded :=
  throughout_iff.mpr ⟨by simp [noItems], by simp [noParts]⟩

theorem mem_parts_of_items (sequence : v.items? = some items) (member : w ∈ items) : w ∈ v.parts := by
  obtain ⟨form, untied⟩ := untie_of_items sequence
  have members : v.members? = some items := by simp only [members?, untied]
  simp [parts, members, member]

theorem mem_parts_of_under {entries : List (Value × Value)} {key : String} (mapping : v.entries? = some entries)
    (under : Under entries key w) : w ∈ v.parts := by
  obtain ⟨before, after, rfl, _⟩ := under
  simp [parts, mapping]

end Value

namespace Path

open Value (Under Bounded maxItems)

variable {v next w : Value} {step : String} {steps : List String} {i : Nat} {items : List Value}

/-- A step from a value to one directly within it: a key without dots, an index in decimal, or a public
attribute without dots that can be read. -/
inductive StepsTo (v : Value) : String → Value → Prop
  | key {entries : List (Value × Value)} {key : String} {w : Value} :
      v.entries? = some entries → Under entries key w → '.' ∉ key.toList → StepsTo v key w
  | index {items : List Value} {i : Nat} {w : Value} :
      v.items? = some items → items[i]? = some w → StepsTo v (toString i) w
  | publicAttribute {attributes : List (String × Value)} {broken : List String} {name : String} {w : Value} :
      v = .object attributes broken → name.toList.head? ≠ some '_' → name ∉ broken →
      attributes.lookup name = some w → '.' ∉ name.toList → StepsTo v name w
  | part {re im : BinaryFloat} {name : String} {w : Value} :
      v = .complex re im → (complexAttributes re im).lookup name = some w → StepsTo v name w

/-- A chain of steps from a value to a sub-value. -/
inductive Addresses : Value → List String → Value → Prop
  | nil (v : Value) : Addresses v [] v
  | cons {v next w : Value} {step : String} {rest : List String} :
      StepsTo v step next → Addresses next rest w → Addresses v (step :: rest) w

theorem StepsTo.undotted (taken : StepsTo v step next) : '.' ∉ step.toList := by
  cases taken with
  | key _ _ undotted => exact undotted
  | index _ _ => exact undotted_toString _
  | publicAttribute _ _ _ _ undotted => exact undotted
  | part _ found =>
    have member := mem_of_lookup_attribute found
    simp only [complexAttributes, List.mem_cons, List.not_mem_nil, or_false, Prod.mk.injEq] at member
    rcases member with ⟨rfl, _⟩ | ⟨rfl, _⟩ | ⟨rfl, _⟩ <;> decide

theorem Addresses.undotted (chain : Addresses v steps w) : ∀ step ∈ steps, '.' ∉ step.toList := by
  induction chain with
  | nil => simp
  | cons taken _ ih => exact List.forall_mem_cons.mpr ⟨taken.undotted, ih⟩

theorem bounded_of_stepsTo (bounded : v.Bounded) (taken : StepsTo v step next) : next.Bounded := by
  have within : next ∈ v.parts → next.Bounded := (Value.throughout_iff.mp bounded).2 next
  cases taken with
  | key mapping under _ => exact within (Value.mem_parts_of_under mapping under)
  | index sequence found => exact within (Value.mem_parts_of_items sequence (List.mem_of_getElem? found))
  | publicAttribute object _ _ found _ =>
    subst object
    obtain ⟨before, after, split, _⟩ := List.lookup_eq_some_iff.mp found
    exact within (List.mem_append_right _ (by simp [split]))
  | part _ found =>
    have member := mem_of_lookup_attribute found
    simp only [complexAttributes, List.mem_cons, List.not_mem_nil, or_false, Prod.mk.injEq] at member
    rcases member with ⟨_, rfl⟩ | ⟨_, rfl⟩ | ⟨_, rfl⟩ <;> exact .of_no_parts rfl rfl

theorem writes_toString (small : i ≤ maxItems) : Writes (toString i) i := by
  refine ⟨isIndex_toString i, ?_, digitsValue_toString i⟩
  have below : i < 10 ^ 19 := Nat.lt_of_le_of_lt small (by decide)
  have short : (Nat.toDigits 10 i).length ≤ 19 :=
    (Nat.length_toDigits_le_iff (by decide) (by decide)).mpr below
  rw [Nat.toString_eq_repr, Nat.toList_repr]
  exact Nat.le_trans short (by decide)

theorem selects_of_stepsTo (bounded : v.Bounded) (taken : StepsTo v step next) : Selects v step next := by
  cases taken with
  | key mapping under _ => exact .key mapping under
  | @index items i w sequence found =>
    have few : items.length ≤ maxItems := bounded v (.self v) items sequence
    have inside : i < items.length := (List.getElem?_eq_some_iff.mp found).1
    exact .index sequence (writes_toString (by omega)) found
  | publicAttribute object isPublic whole found _ => exact .publicAttribute object isPublic whole found
  | part complex found => exact .part complex found

theorem leads_of_addresses (bounded : v.Bounded) (chain : Addresses v steps w) : Leads v steps w := by
  induction chain with
  | nil v => exact .nil v
  | cons taken _ ih =>
    exact .cons (selects_of_stepsTo bounded taken) (ih (bounded_of_stepsTo bounded taken))

theorem steps_toString (i : Nat) : Path.steps (toString i) = [toString i] := by
  have nonempty : toString i ≠ "" := by
    intro empty
    have digits := isIndex_toString i
    rw [empty] at digits
    exact absurd digits (by decide)
  rw [steps_of_ne nonempty, segments_of_undotted (undotted_toString i)]

/-- A sequence has an item of its own under an index, and only beyond its end the text of the index, if that is
an item. -/
theorem select_toString (sequence : v.items? = some items) (member : .text (toString i) ∈ items)
    (small : i ≤ maxItems) :
    select v (.text (toString i)) = .ok (items[i]?.getD (.text (toString i))) := by
  have writes := writes_toString small
  apply select_of_reaches
  refine ⟨_, rfl, ?_⟩
  rw [steps_toString]
  cases found : items[i]? with
  | some w => exact .cons (.index sequence writes found) (.nil _)
  | none =>
    have beyond : items.length ≤ i := List.getElem?_eq_none_iff.mp found
    exact .cons (.item sequence member fun _ => ⟨i, writes, beyond⟩) (.nil _)

end Path

/-- The steps that lead to a sub-value, joined by dots, are a path that selects it, unless they are a single
empty text. An index prevails over an item that is a text of the same digits. -/
theorem Path.select_address (v : Value) (bounded : v.Bounded) :
    (∀ (steps : List String) (w : Value), Addresses v steps w → steps ≠ [""] →
      select v (.text (".".intercalate steps)) = .ok w) ∧
    ∀ (items : List Value) (i : Nat), v.items? = some items → .text (toString i) ∈ items → i ≤ Value.maxItems →
      select v (.text (toString i)) = .ok (items[i]?.getD (.text (toString i))) := by
  constructor
  · intro steps w chain other
    apply select_of_reaches
    refine ⟨_, rfl, ?_⟩
    rw [steps_intercalate chain.undotted other]
    exact leads_of_addresses bounded chain
  · intro items i sequence member small
    exact select_toString sequence member small

/-- An attribute of an object under an empty key, in a list at an index that is also an item of it. -/
theorem Path.select_address_of_empty_key :
    let inner := Value.plain [(.text "", .object [("x", .int 5)] [])]
    let v := Value.plain [(.text "a", .list [.text "1", inner])]
    v.Bounded ∧ Addresses v ["a", "1", "", "x"] (.int 5) ∧ ["a", "1", "", "x"] ≠ [""] ∧
      select v (.text "a.1..x") = .ok (.int 5) ∧
      Value.text "1" ∈ [Value.text "1", inner] ∧ 1 ≤ Value.maxItems ∧
      (Value.list [.text "1", inner]).Bounded ∧ select (.list [.text "1", inner]) (.text "1") = .ok inner := by
  intro inner v
  have single {w part : Value} (noItems : w.items? = none) (parts : w.parts = [part]) (bounded : part.Bounded) :
      w.Bounded := by
    refine Value.throughout_iff.mpr ⟨by simp [noItems], fun inside member => ?_⟩
    rw [parts, List.mem_singleton] at member
    rwa [member]
  have five : (Value.int 5).Bounded := .of_no_parts rfl rfl
  have text : (Value.text "1").Bounded := .of_no_parts rfl rfl
  have object : (Value.object [("x", .int 5)] []).Bounded := single rfl rfl five
  have innerBounded : inner.Bounded := single rfl rfl object
  have listBounded : (Value.list [.text "1", inner]).Bounded := by
    refine Value.throughout_iff.mpr ⟨?_, ?_⟩
    · intro items sequence
      rw [← Option.some.inj sequence]
      decide
    · change ∀ part ∈ [Value.text "1", inner], part.Bounded
      simpa using ⟨text, innerBounded⟩
  have bounded : v.Bounded := single rfl rfl listBounded
  have chain : Addresses v ["a", "1", "", "x"] (.int 5) :=
    .cons (.key rfl ⟨[], [], rfl, by simp⟩ (by decide)) <|
    .cons (.index (i := 1) rfl rfl) <|
    .cons (.key rfl ⟨[], [], rfl, by simp⟩ (by decide)) <|
    .cons (.publicAttribute rfl (by decide) (by simp) rfl (by decide)) (.nil _)
  have other : ["a", "1", "", "x"] ≠ [""] := by decide
  have found := (select_address v bounded).1 _ _ chain other
  have member : Value.text "1" ∈ [Value.text "1", inner] := List.mem_cons_self
  have small : 1 ≤ Value.maxItems := by decide
  have prevails := (select_address (.list [.text "1", inner]) listBounded).2 _ 1 rfl member small
  exact ⟨bounded, chain, other, found, member, small, listBounded, prevails⟩

end Criteria
