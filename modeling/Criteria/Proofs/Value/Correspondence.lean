import Criteria.Proofs.Value.WellFormed

set_option autoImplicit false
set_option relaxedAutoImplicit false

/-!
# What equality says of parts

Equal containers correspond: sequences in their length and mappings in their keys, all the way down. What
stands opposite in them is equal too, but not always strictly: kinds are compared for the two containers
only. Below them a Boolean equals a number, a plain mapping equals another form of mapping, and numbers that
are out of range equal one another without being asked whether they are numbers.
-/

namespace Criteria

namespace Value

/-- What stands opposite in two values: the values themselves, items at one index, and what is under equal
keys. -/
inductive Opposite (a b : Value) : Value → Value → Prop
  | whole : Opposite a b a b
  | item {x y x' y' : Value} {items items' : List Value} {index : Nat} :
      Opposite a b x y → x.items? = some items → y.items? = some items' →
      items[index]? = some x' → items'[index]? = some y' → Opposite a b x' y'
  | entry {x y : Value} {entries entries' : List (Value × Value)} {e e' : Value × Value} :
      Opposite a b x y → x.entries? = some entries → y.entries? = some entries' →
      e ∈ entries → e' ∈ entries' → same e.1 e'.1 = true → Opposite a b e.2 e'.2

/-- Two values have equally many items, equally many entries, and the same keys. -/
structure SameOutline (x y : Value) : Prop where
  items : x.items?.map List.length = y.items?.map List.length
  entries : x.entries?.map List.length = y.entries?.map List.length
  keys : ∀ entries entries', x.entries? = some entries → y.entries? = some entries' →
    Matched (fun e e' => same e.1 e'.1 = true) entries entries'

/-- Two values of different kinds that equality takes for one: a Boolean, a number or a complex number, or
mappings of different forms. -/
def Coerces (x y : Value) : Prop :=
  x.kind ≠ y.kind ∧ (x.IsNumeric ∧ y.IsNumeric ∨ x.entries?.isSome = true ∧ y.entries?.isSome = true)

variable {a b x y : Value}

theorem array_of_items? {items : List Value} (tied : x.untie = x) (listed : x.items? = some items) :
    ∃ form, x = .array form items := by
  rw [items?, tied] at listed
  split at listed
  · rename_i form held
    exact ⟨form, by rw [Option.some.inj listed]⟩
  · simp at listed

theorem mapping_of_entries? {entries : List (Value × Value)} (tied : x.untie = x)
    (listed : x.entries? = some entries) : ∃ form, x = .mapping form entries := by
  rw [entries?, tied] at listed
  split at listed
  · rename_i form held
    exact ⟨form, by rw [Option.some.inj listed]⟩
  · simp at listed

theorem IsNumeric.outline (numeric : x.IsNumeric) : x.items? = none ∧ x.entries? = none := by
  rcases numeric with ⟨n, number⟩ | ⟨re, im, rfl⟩
  · cases x with
    | bool b => exact ⟨rfl, rfl⟩
    | number n => exact ⟨rfl, rfl⟩
    | _ => simp [number?] at number
  · exact ⟨rfl, rfl⟩

theorem sameItems_of_same {items items' : List Value} (equal : same x y = true)
    (listed : x.items? = some items) (listed' : y.items? = some items') :
    List.Forall₂ (fun a b => same a b = true) items items' := by
  obtain ⟨form, rfl⟩ := array_of_items? (untie_of_same equal) listed
  obtain ⟨form', rfl⟩ := array_of_items? (untie_of_same (same_symm equal)) listed'
  exact (same_array_iff.mp equal).2

theorem sameEntries_of_same {entries entries' : List (Value × Value)} (equal : same x y = true)
    (held : x.entries? = some entries) (held' : y.entries? = some entries') :
    Matched SameEntry entries entries' := by
  obtain ⟨form, rfl⟩ := mapping_of_entries? (untie_of_same equal) held
  obtain ⟨form', rfl⟩ := mapping_of_entries? (untie_of_same (same_symm equal)) held'
  exact (same_mapping_iff.mp equal).2.1

theorem sameOutline_of_same (equal : same x y = true) : SameOutline x y := by
  have keys (entries entries') (held : x.entries? = some entries) (held' : y.entries? = some entries') :
      Matched (fun e e' => same e.1 e'.1 = true) entries entries' := by
    obtain ⟨forth, back⟩ := sameEntries_of_same equal held held'
    exact ⟨fun e member => (forth e member).imp fun _ found => ⟨found.1, found.2.1⟩,
      fun e member => (back e member).imp fun _ found => ⟨found.1, found.2.1⟩⟩
  cases equalAs_of_same equal with
  | numbers first second =>
    obtain ⟨noItems, noEntries⟩ := (isNumeric_of_point? first).outline
    obtain ⟨noItems', noEntries'⟩ := (isNumeric_of_point? second).outline
    exact ⟨by rw [noItems, noItems'], by rw [noEntries, noEntries'], keys⟩
  | atoms => exact ⟨rfl, rfl, keys⟩
  | times => exact ⟨rfl, rfl, keys⟩
  | sequences aligned => exact ⟨congrArg some aligned.length_eq, rfl, keys⟩
  | sets => exact ⟨rfl, rfl, keys⟩
  | mappings length => exact ⟨rfl, congrArg some length, keys⟩

theorem strict_of_same (equal : same x y = true) (kinds : x.kind = y.kind) :
    x.strictEquals y = .ok true ∨ ∃ f, x.strictEquals y = .error f := by
  cases answer : x.strictEquals y with
  | error f => exact .inr ⟨f, rfl⟩
  | ok strict =>
    by_cases numeric : x.kind = .number
    · obtain ⟨n, rfl⟩ := eq_number_of_kind numeric
      obtain ⟨m, rfl⟩ := eq_number_of_kind (kinds.symm.trans numeric)
      have numbers : n.same m = true := by rwa [same] at equal
      have ordered : n.order? m = some .eq := eq_of_beq numbers
      have isNumber : n.isNaN ≠ .ok true := Number.isNaN_ne_true_of_order? ordered
      have isNumber' : m.isNaN ≠ .ok true := Number.isNaN_ne_true_of_order? (Number.order?_swap ordered)
      rw [eq_same_of_strictEquals isNumber isNumber' answer, numbers]
      exact .inl rfl
    · rw [← answer]
      exact .inl (by simp [strictEquals, ← kinds, numeric, equal])

theorem coerces_of_same (equal : same x y = true) (kinds : x.kind ≠ y.kind) : x.Coerces y := by
  cases equalAs_of_same equal with
  | numbers first second =>
    exact ⟨kinds, .inl ⟨isNumeric_of_point? first, isNumeric_of_point? second⟩⟩
  | mappings => exact ⟨kinds, .inr ⟨rfl, rfl⟩⟩
  | atoms => exact absurd rfl kinds
  | times => exact absurd rfl kinds
  | sequences => exact absurd rfl kinds
  | sets => exact absurd rfl kinds

/-- What is under equal keys of equal mappings is equal, since no other key can have been meant. -/
theorem same_of_entries {entries entries' : List (Value × Value)} {e e' : Value × Value}
    (keys : KeysApart entries') (matched : Matched SameEntry entries entries') (member : e ∈ entries)
    (member' : e' ∈ entries') (equal : same e.1 e'.1 = true) : same e.2 e'.2 = true := by
  obtain ⟨found, foundMember, sameKey, sameValue⟩ := matched.forth e member
  have sameKeys : same found.1 e'.1 = true :=
    same_trans (keys.unordered found foundMember) (same_symm sameKey) equal
  rwa [← keys.eq_of_same foundMember member' sameKeys]

theorem holds_of_items? {items : List Value} {v : Value} (held : b.Holds y) (listed : y.items? = some items)
    (member : v ∈ items) : b.Holds v := by
  have members : y.members? = some items := by
    unfold items? at listed
    unfold members?
    split at listed <;> simp_all
  refine held.trans (.part ?_ (.self v))
  simp [parts, members, member]

theorem holds_of_entries? {entries : List (Value × Value)} {e : Value × Value} (held : b.Holds y)
    (entered : y.entries? = some entries) (member : e ∈ entries) : b.Holds e.2 := by
  have under : e.2 ∈ (y.entries?.getD []).map Prod.snd := by
    rw [entered]
    exact List.mem_map_of_mem member
  exact held.trans (.part (List.mem_append_left _ (List.mem_append_right _ under)) (.self e.2))

theorem same_of_opposite (apart : ∀ form entries, b.Holds (.mapping form entries) → KeysApart entries)
    (equal : same a b = true) (opposite : Opposite a b x y) : same x y = true ∧ b.Holds y := by
  induction opposite with
  | whole => exact ⟨equal, .self b⟩
  | @item x y x' y' items items' index _ listed listed' at_ at_' ih =>
    obtain ⟨equal, held⟩ := ih
    obtain ⟨within, sameItem⟩ := List.getElem?_eq_some_iff.mp at_
    obtain ⟨within', sameItem'⟩ := List.getElem?_eq_some_iff.mp at_'
    have aligned := (sameItems_of_same equal listed listed').get within within'
    rw [List.get_eq_getElem, List.get_eq_getElem, sameItem, sameItem'] at aligned
    exact ⟨aligned, holds_of_items? held listed' (List.mem_of_getElem? at_')⟩
  | @entry x y entries entries' e e' _ entered entered' member member' sameKey ih =>
    obtain ⟨equal, held⟩ := ih
    obtain ⟨form, rfl⟩ := mapping_of_entries? (untie_of_same (same_symm equal)) entered'
    have matched := sameEntries_of_same equal entered entered'
    exact ⟨same_of_entries (apart form _ held) matched member member' sameKey,
      holds_of_entries? held entered' member'⟩

end Value

/-- Strictly equal values have the same outline all the way down, and what stands opposite in them is
strictly equal unless it is out of range or of two kinds that equality takes for one. -/
theorem strictEquals_corresponds (a b : Value) (equal : a.strictEquals b = .ok true)
    (apart : ∀ form entries, b.Holds (.mapping form entries) → Value.KeysApart entries) :
    ∀ x y, Value.Opposite a b x y → x.SameOutline y ∧
      (x.strictEquals y = .ok true ∨ (∃ f, x.strictEquals y = .error f) ∨ x.Coerces y) := by
  intro x y opposite
  have whole : Value.same a b = true := (Value.strictEquals_iff.mp equal).1.2
  obtain ⟨part, _⟩ := Value.same_of_opposite apart whole opposite
  refine ⟨Value.sameOutline_of_same part, ?_⟩
  by_cases kinds : x.kind = y.kind
  · exact (Value.strict_of_same part kinds).imp_right .inl
  · exact .inr (.inr (Value.coerces_of_same part kinds))

/-- A list under a key, in which a Boolean stands opposite to a number. -/
theorem strictEquals_corresponds_of_flag :
    let a : Value := .plain [(.text "k", .list [.int 2, .bool true])]
    let b : Value := .plain [(.text "k", .list [.number (.float (.finite false 2 0)), .int 1])]
    a.strictEquals b = .ok true ∧ Value.Opposite a b (.bool true) (.int 1) ∧
      (Value.bool true).Coerces (.int 1) ∧ (Value.bool true).strictEquals (.int 1) = .ok false := by
  intro a b
  have equal : a.strictEquals b = .ok true := by decide +kernel
  have formed : b.WellFormed := by
    change (Value.plain (Value.enterAll [(.text "k", _)])).WellFormed
    refine Value.wellFormed_enterAll (by simp [Value.isUnordered]) ?_
    rw [List.forall_mem_singleton]
    refine Value.wellFormed_array fun item member => Value.wellFormed_of_isAtom ?_
    rcases List.mem_pair.mp member with rfl | rfl <;> rfl
  have list : Value.Opposite a b _ _ :=
    .entry .whole rfl rfl (List.mem_singleton_self _) (List.mem_singleton_self _) (by decide +kernel)
  have flag : Value.Opposite a b (.bool true) (.int 1) :=
    .item list rfl rfl (show [Value.int 2, .bool true][1]? = some (.bool true) from rfl) rfl
  have differ : (Value.bool true).strictEquals (.int 1) = .ok false := by decide
  obtain ⟨_, strict | ⟨f, stopped⟩ | coerced⟩ := strictEquals_corresponds a b equal formed.apart _ _ flag
  · simp [differ] at strict
  · simp [differ] at stopped
  · exact ⟨equal, flag, coerced, differ⟩

/-- A list of a Boolean equals a list of a number. -/
theorem not_strictEquals_items :
    ¬ ((∀ form items items', (Value.array form items).strictEquals (.array form items') = .ok true →
          items.length = items'.length ∧ ∀ (i : Nat) x y, items[i]? = some x → items'[i]? = some y →
            x.strictEquals y = .ok true) ∧
        ∀ entries entries', (Value.plain entries).strictEquals (.plain entries') = .ok true →
          entries.length = entries'.length ∧ ∀ e ∈ entries, ∀ e' ∈ entries', e.1.same e'.1 = true →
            e.2.strictEquals e'.2 = .ok true) := by
  rintro ⟨sequences, _⟩
  have equal : (Value.array .list [.bool true]).strictEquals (.array .list [.int 1]) = .ok true := by
    decide +kernel
  have strict : (Value.bool true).strictEquals (.int 1) = .ok true :=
    (sequences _ _ _ equal).2 0 _ _ rfl rfl
  have differ : (Value.bool true).strictEquals (.int 1) = .ok false := by decide
  simp [differ] at strict

end Criteria
