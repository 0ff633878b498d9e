import Criteria.Proofs.Search
import Criteria.Value.StrictEquality
import Mathlib.Data.Finset.Card
import Mathlib.Data.List.ProdSigma

set_option autoImplicit false
set_option relaxedAutoImplicit false

/-!
# Comparisons that have no end

A comparison of containers comes to one of what stands in them, and from there to the next. Whatever it comes
to is one of finitely many pairs, so a comparison that goes on for more steps than there are pairs comes back
to one of them and goes on for ever. Only containers that hold themselves are compared without end, and both
operands have to hold one.
-/

namespace Criteria

section Steps

variable {α : Type} {next : α → Option α} {places : List α} {a b : α} {m n : Nat}

def stepped (next : α → Option α) : Nat → α → Option α
  | 0, a => some a
  | n + 1, a => (next a).bind (stepped next n)

theorem stepped_add (m n : Nat) (a : α) :
    stepped next (m + n) a = (stepped next m a).bind (stepped next n) := by
  induction m generalizing a with
  | zero => simp [stepped]
  | succ m ih =>
    rw [Nat.succ_add, stepped, stepped, Option.bind_assoc]
    exact congrArg _ (funext ih)

theorem stepped_isSome_of_le (fewer : m ≤ n) (goes : (stepped next n a).isSome = true) :
    (stepped next m a).isSome = true := by
  obtain ⟨k, rfl⟩ := Nat.exists_eq_add_of_le fewer
  rw [stepped_add, Option.isSome_bind] at goes
  exact Option.isSome_of_any goes

theorem stepped_mem (closed : ∀ a ∈ places, ∀ b, next a = some b → b ∈ places) (start : a ∈ places)
    (leads : stepped next n a = some b) : b ∈ places := by
  induction n generalizing a with
  | zero =>
    obtain rfl : a = b := Option.some.inj leads
    exact start
  | succ n ih =>
    obtain ⟨c, step, leads⟩ := Option.bind_eq_some_iff.mp leads
    exact ih (closed a start c step) leads

theorem stepped_cycle (back : stepped next n b = some b) (rounds : Nat) :
    stepped next (rounds * n) b = some b := by
  induction rounds with
  | zero => simp [stepped]
  | succ rounds ih => rw [Nat.succ_mul, stepped_add, ih, Option.bind_some, back]

/-- Among finitely many places, steps that go on for as many as there are go on for ever: by then they have
come to one place twice. -/
theorem stepped_isSome (closed : ∀ a ∈ places, ∀ b, next a = some b → b ∈ places) (start : a ∈ places)
    (long : (stepped next places.length a).isSome = true) (n : Nat) : (stepped next n a).isSome = true := by
  classical
  have : Nonempty α := ⟨a⟩
  have reached (i : Nat) (early : i ≤ places.length) : ∃ b ∈ places, stepped next i a = some b := by
    obtain ⟨b, leads⟩ := Option.isSome_iff_exists.mp (stepped_isSome_of_le early long)
    exact ⟨b, stepped_mem closed start leads, leads⟩
  choose! place among leads using reached
  have few : places.toFinset.card < (Finset.range (places.length + 1)).card := by
    rw [Finset.card_range]
    exact Nat.lt_succ_of_le places.toFinset_card_le
  obtain ⟨i, inRange, j, inRange', apart, same⟩ := Finset.exists_ne_map_eq_of_card_lt_of_maps_to few
    (f := place) fun i inRange => List.mem_toFinset.mpr (among i (Finset.mem_range_succ_iff.mp inRange))
  -- Whichever of the two comes first, from there it is a number of steps back to the same place.
  wlog earlier : i < j generalizing i j
  · exact this j inRange' i inRange apart.symm same.symm (by omega)
  obtain ⟨k, rfl⟩ := Nat.exists_eq_add_of_lt earlier
  have first := leads i (Finset.mem_range_succ_iff.mp inRange)
  have second := leads _ (Finset.mem_range_succ_iff.mp inRange')
  have back : stepped next (k + 1) (place i) = some (place i) := by
    rw [← same, Nat.add_assoc, stepped_add, first, Option.bind_some] at second
    exact second
  refine stepped_isSome_of_le (n := i + n * (k + 1)) ?_ ?_
  · exact Nat.le_trans (Nat.le_mul_of_pos_right n k.succ_pos) (Nat.le_add_left _ _)
  · rw [stepped_add, first, Option.bind_some, stepped_cycle back]
    rfl

end Steps

namespace Value

/-- The values directly within a value: members, what entries hold, and attributes. -/
def parts (v : Value) : List Value :=
  v.members?.getD [] ++ (v.entries?.getD []).map Prod.snd ++
    match v with
    | .object attributes _ => attributes.map Prod.snd
    | _ => []

/-- A value holds itself and what its parts hold. -/
inductive Holds : Value → Value → Prop
  | self (v : Value) : Holds v v
  | part {v part w : Value} : part ∈ v.parts → Holds part w → Holds v w

variable {u v w a b x y : Value} {items items' : List Value} {entries others : List (Value × Value)}

theorem Holds.trans (first : u.Holds v) (second : v.Holds w) : u.Holds w := by
  induction first with
  | self => exact second
  | part member _ ih => exact .part member (ih second)

theorem holds_iff : v.Holds w ↔ w = v ∨ ∃ part ∈ v.parts, part.Holds w := by
  constructor
  · intro held
    cases held with
    | self => exact .inl rfl
    | part member inside => exact .inr ⟨_, member, inside⟩
  · rintro (rfl | ⟨part, member, inside⟩)
    · exact .self w
    · exact .part member inside

/-- The comparison of two sequences comes to the first items that are not found equal. -/
inductive ItemsEnter : List Value → List Value → Value → Value → Prop
  | here {x y : Value} {rest rest' : List Value} : same x y = false → ItemsEnter (x :: rest) (y :: rest') x y
  | next {a b x y : Value} {rest rest' : List Value} : same a b = true → ItemsEnter rest rest' x y →
      ItemsEnter (a :: rest) (b :: rest') x y

/-- The comparison of a mapping with another comes to what both have under the first key under which they are
not found to have the same. -/
inductive EntriesEnter (others : List (Value × Value)) : List (Value × Value) → Value → Value → Prop
  | here {k k' x y : Value} {rest before after : List (Value × Value)} :
      (∀ e ∈ others, ¬ (same k e.1 = true ∧ same x e.2 = true)) →
      others = before ++ (k', y) :: after → (∀ e ∈ before, same k e.1 = false) → same k k' = true →
      EntriesEnter others ((k, x) :: rest) x y
  | next {e : Value × Value} {x y : Value} {rest : List (Value × Value)} :
      (∃ e' ∈ others, same e.1 e'.1 = true ∧ same e.2 e'.2 = true) → EntriesEnter others rest x y →
      EntriesEnter others (e :: rest) x y

/-- The comparison of two values comes to that of two others, on which it depends. -/
inductive Enters (a b : Value) : Value → Value → Prop
  | list {items items' : List Value} {x y : Value} : a.untie = .array .list items →
      b.untie = .array .list items' → items.length = items'.length → ItemsEnter items items' x y → Enters a b x y
  | tuple {items items' : List Value} {x y : Value} : a.untie = .array .tuple items →
      b.untie = .array .tuple items' → ItemsEnter items items' x y → Enters a b x y
  | left {form form' : MapForm} {entries entries' : List (Value × Value)} {x y : Value} :
      a.untie = .mapping form entries → b.untie = .mapping form' entries' → form.isSecond form' = false →
      entries.length = entries'.length → EntriesEnter entries' entries x y → Enters a b x y
  | right {form form' : MapForm} {entries entries' : List (Value × Value)} {x y : Value} :
      a.untie = .mapping form entries → b.untie = .mapping form' entries' → form.isSecond form' = true →
      entries.length = entries'.length → EntriesEnter entries entries' x y → Enters a b x y

/-- Two values are compared without end when from their comparison one comes to another, from there to the
next, and so on. -/
def Endless (a b : Value) : Prop :=
  ∃ chain : Nat → Value × Value, chain 0 = (a, b) ∧
    ∀ n, Enters (chain n).1 (chain n).2 (chain (n + 1)).1 (chain (n + 1)).2

theorem itemsApart?_eq_some_iff : itemsApart? items items' = some (x, y) ↔ ItemsEnter items items' x y := by
  induction items generalizing items' with
  | nil =>
    simp only [itemsApart?, reduceCtorEq, false_iff]
    rintro ⟨⟩
  | cons a rest ih =>
    cases items' with
    | nil =>
      simp only [itemsApart?, reduceCtorEq, false_iff]
      rintro ⟨⟩
    | cons b rest' =>
      rw [itemsApart?]
      split
      · rename_i equal
        rw [ih]
        refine ⟨.next equal, fun enters => ?_⟩
        cases enters with
        | here differ => simp [equal] at differ
        | next _ later => exact later
      · rename_i differ
        rw [Bool.not_eq_true] at differ
        constructor
        · intro found
          cases found
          exact .here differ
        · intro enters
          cases enters with
          | here => rfl
          | next equal => simp [differ] at equal

theorem find?_key_eq_some_iff {k : Value} {e : Value × Value} :
    others.find? (fun e => same k e.1) = some e ↔
      ∃ before after, others = before ++ e :: after ∧ (∀ e ∈ before, same k e.1 = false) ∧
        same k e.1 = true := by
  rw [List.find?_eq_some_iff_append]
  constructor
  · rintro ⟨equal, before, after, split, others⟩
    exact ⟨before, after, split, fun e member => by simpa using others e member, equal⟩
  · rintro ⟨before, after, split, others, equal⟩
    exact ⟨equal, before, after, split, fun e member => by simp [others e member]⟩

theorem entriesApart?_eq_some_iff :
    entriesApart? entries others = some (x, y) ↔ EntriesEnter others entries x y := by
  induction entries with
  | nil =>
    simp only [entriesApart?, reduceCtorEq, false_iff]
    rintro ⟨⟩
  | cons e rest ih =>
    obtain ⟨k, v⟩ := e
    have known : (others.any fun e => same k e.1 && same v e.2) = true ↔
        ∃ e ∈ others, same k e.1 = true ∧ same v e.2 = true := by
      simp only [List.any_eq_true, Bool.and_eq_true]
    rw [entriesApart?]
    split
    · rename_i equal
      rw [ih]
      refine ⟨.next (known.mp equal), fun enters => ?_⟩
      cases enters with
      | here differ =>
        obtain ⟨e, member, keys, values⟩ := known.mp equal
        exact absurd ⟨keys, values⟩ (differ e member)
      | next _ later => exact later
    · rename_i differ
      rw [known] at differ
      simp only [Option.map_eq_some_iff, Prod.mk.injEq, find?_key_eq_some_iff]
      constructor
      · rintro ⟨⟨k', y'⟩, ⟨before, after, split, others, equal⟩, rfl, rfl⟩
        exact .here (fun e member same => differ ⟨e, member, same⟩) split others equal
      · intro enters
        cases enters with
        | here _ split others equal => exact ⟨_, ⟨_, _, split, others, equal⟩, rfl, rfl⟩
        | next equal => exact absurd equal differ

theorem apart?_eq_some_iff : apart? a b = some (x, y) ↔ Enters a b x y := by
  constructor
  · intro found
    unfold apart? at found
    split at found
    · rename_i left right
      split at found
      · rename_i lengths
        exact .list left right (eq_of_beq lengths) (itemsApart?_eq_some_iff.mp found)
      · simp at found
    · rename_i left right
      exact .tuple left right (itemsApart?_eq_some_iff.mp found)
    · rename_i left right
      split at found
      · simp at found
      · rename_i unequal
        have lengths := not_not.mp (mt bne_iff_ne.mpr unequal)
        split at found
        · rename_i second
          exact .right left right second lengths (entriesApart?_eq_some_iff.mp found)
        · rename_i first
          exact .left left right (by simpa using first) lengths (entriesApart?_eq_some_iff.mp found)
    · simp at found
  · intro enters
    cases enters with
    | list left right lengths enters =>
      simp only [apart?, left, right, lengths, beq_self_eq_true, if_true, itemsApart?_eq_some_iff.mpr enters]
    | tuple left right enters => simp only [apart?, left, right, itemsApart?_eq_some_iff.mpr enters]
    | left left right first lengths enters =>
      simp [apart?, left, right, first, lengths, entriesApart?_eq_some_iff.mpr enters]
    | right left right second lengths enters =>
      simp [apart?, left, right, second, lengths, entriesApart?_eq_some_iff.mpr enters]

def inner : Value → List Value
  | .array _ items => items
  | .mapping _ entries => entries.map Prod.snd
  | .knot nodes _ => nodes
  | _ => []

theorem sizeOf_lt_of_mem_inner (member : w ∈ v.inner) : sizeOf w < sizeOf v := by
  cases v with
  | array form items =>
    have smaller : sizeOf w < sizeOf items := List.sizeOf_lt_of_mem member
    simp only [array.sizeOf_spec]
    omega
  | mapping form entries =>
    obtain ⟨⟨key, held⟩, entry, rfl⟩ := List.mem_map.mp member
    have smaller := List.sizeOf_lt_of_mem entry
    simp only [Prod.mk.sizeOf_spec] at smaller
    simp only [mapping.sizeOf_spec]
    omega
  | knot nodes root =>
    have smaller : sizeOf w < sizeOf nodes := List.sizeOf_lt_of_mem member
    simp only [knot.sizeOf_spec]
    omega
  | _ => simp [inner] at member

theorem mem_writtenItems_iff : w ∈ writtenItems items ↔ ∃ v ∈ items, w ∈ v.written := by
  induction items with
  | nil => simp [writtenItems]
  | cons v rest ih => simp [writtenItems, ih]

theorem mem_writtenEntries_iff : w ∈ writtenEntries entries ↔ ∃ v ∈ entries.map Prod.snd, w ∈ v.written := by
  induction entries with
  | nil => simp [writtenEntries]
  | cons e rest ih => simp [writtenEntries, ih]

theorem mem_written_iff : w ∈ v.written ↔ w = v ∨ ∃ part ∈ v.inner, w ∈ part.written := by
  cases v with
  | array form items => rw [written, List.mem_cons, mem_writtenItems_iff, inner]
  | mapping form entries => rw [written, List.mem_cons, mem_writtenEntries_iff, inner]
  | knot nodes root => rw [written, List.mem_cons, mem_writtenItems_iff, inner]
  | _ => simp [written, inner]

theorem self_mem_written (v : Value) : v ∈ v.written := mem_written_iff.mpr (.inl rfl)

theorem mem_written_of_mem_inner {u v w : Value} (member : u ∈ w.inner) (there : w ∈ v.written) :
    u ∈ v.written := by
  rcases mem_written_iff.mp there with rfl | ⟨part, inside, there⟩
  · exact mem_written_iff.mpr (.inr ⟨u, member, self_mem_written u⟩)
  · exact mem_written_iff.mpr (.inr ⟨part, inside, mem_written_of_mem_inner member there⟩)
termination_by sizeOf v
decreasing_by exact sizeOf_lt_of_mem_inner inside

def entered (v : Value) : List Value :=
  match v.untie with
  | .array _ items => items
  | .mapping _ entries => entries.map Prod.snd
  | _ => []

theorem mem_rerooted_iff {places : List Value} : w ∈ rerooted places v ↔
    ∃ nodes root index, v = .knot nodes root ∧ .link index ∈ places ∧ w = .knot nodes index := by
  cases v with
  | knot nodes root =>
    simp only [rerooted, List.mem_filterMap]
    constructor
    · rintro ⟨place, member, same⟩
      cases place with
      | link index => exact ⟨nodes, root, index, rfl, member, (Option.some.inj same).symm⟩
      | _ => simp at same
    · rintro ⟨_, _, index, same, member, rfl⟩
      cases same
      exact ⟨.link index, member, rfl⟩
  | _ => simp [rerooted]

theorem knot_mem_written {nodes : List Value} {root : Nat} (member : .knot nodes root ∈ v.reach) :
    ∃ root, .knot nodes root ∈ v.written := by
  rcases List.mem_append.mp member with there | again
  · exact ⟨root, there⟩
  · obtain ⟨knot, there, made⟩ := List.mem_flatMap.mp again
    obtain ⟨_, root', _, rfl, _, same⟩ := mem_rerooted_iff.mp made
    cases same
    exact ⟨root', there⟩

theorem within_mem_reach {nodes : List Value} {root : Nat} (knot : .knot nodes root ∈ v.written)
    (member : w ∈ v.written) : within nodes w ∈ v.reach := by
  cases w with
  | link index =>
    refine List.mem_append_right _ (List.mem_flatMap.mpr ⟨_, knot, ?_⟩)
    exact mem_rerooted_iff.mpr ⟨nodes, root, index, rfl, member, rfl⟩
  | _ => exact List.mem_append_left _ member

theorem mem_inner_of_mem_entered (untied : ∀ nodes root, w ≠ .knot nodes root) (member : u ∈ w.entered) :
    u ∈ w.inner := by
  cases w with
  | knot nodes root => exact absurd rfl (untied nodes root)
  | array form items => exact member
  | mapping form entries => exact member
  | _ => simp [entered, untie] at member

theorem exists_of_mem_entered_knot {nodes : List Value} {root : Nat} (member : u ∈ (knot nodes root).entered) :
    ∃ node, nodes[root]? = some node ∧ ∃ w ∈ node.inner, within nodes w = u := by
  unfold entered untie at member
  cases found : nodes[root]? with
  | none => simp [found] at member
  | some node =>
    refine ⟨node, rfl, ?_⟩
    cases node with
    | array form items => simpa [found, inner] using member
    | mapping form entries =>
      simp only [found, List.map_map, List.mem_map] at member
      obtain ⟨e, inside, rfl⟩ := member
      exact ⟨e.2, List.mem_map_of_mem inside, rfl⟩
    | _ => simp [found] at member

theorem mem_reach_of_mem_entered (member : u ∈ w.entered) (there : w ∈ v.reach) : u ∈ v.reach := by
  by_cases tied : ∃ nodes root, w = .knot nodes root
  · obtain ⟨nodes, root, rfl⟩ := tied
    obtain ⟨root', knot⟩ := knot_mem_written there
    obtain ⟨node, found, item, inside, rfl⟩ := exists_of_mem_entered_knot member
    have node_written : node ∈ v.written := mem_written_of_mem_inner (List.mem_of_getElem? found) knot
    exact within_mem_reach knot (mem_written_of_mem_inner inside node_written)
  · simp only [not_exists] at tied
    have written : w ∈ v.written := by
      rcases List.mem_append.mp there with there | again
      · exact there
      · obtain ⟨_, _, made⟩ := List.mem_flatMap.mp again
        obtain ⟨nodes, _, index, _, _, rfl⟩ := mem_rerooted_iff.mp made
        exact absurd rfl (tied nodes index)
    exact List.mem_append_left _ (mem_written_of_mem_inner (mem_inner_of_mem_entered tied member) written)

theorem ItemsEnter.mem (enters : ItemsEnter items items' x y) : x ∈ items ∧ y ∈ items' := by
  induction enters with
  | here => exact ⟨List.mem_cons_self, List.mem_cons_self⟩
  | next _ _ ih => exact ⟨List.mem_cons_of_mem _ ih.1, List.mem_cons_of_mem _ ih.2⟩

theorem EntriesEnter.mem (enters : EntriesEnter others entries x y) :
    x ∈ entries.map Prod.snd ∧ y ∈ others.map Prod.snd := by
  induction enters with
  | here _ split => simp [split]
  | next _ _ ih => exact ⟨List.mem_cons_of_mem _ ih.1, ih.2⟩

theorem Enters.mem (enters : Enters a b x y) :
    x ∈ a.entered ∧ y ∈ b.entered ∨ x ∈ b.entered ∧ y ∈ a.entered := by
  cases enters with
  | list left right _ enters => exact .inl (by simpa only [entered, left, right] using enters.mem)
  | tuple left right enters => exact .inl (by simpa only [entered, left, right] using enters.mem)
  | left left right _ _ enters => exact .inl (by simpa only [entered, left, right] using enters.mem)
  | right left right _ _ enters => exact .inr (by simpa only [entered, left, right] using enters.mem)

theorem endless_iff_enters : Endless a b ↔ ∃ x y, Enters a b x y ∧ Endless x y := by
  constructor
  · rintro ⟨chain, start, goes⟩
    have first := goes 0
    rw [start] at first
    exact ⟨_, _, first, fun n => chain (n + 1), rfl, fun n => goes (n + 1)⟩
  · rintro ⟨x, y, first, chain, start, goes⟩
    refine ⟨fun n => n.casesOn (a, b) chain, rfl, fun n => ?_⟩
    cases n with
    | zero =>
      have onward : Enters a b (chain 0).1 (chain 0).2 := by
        rw [start]
        exact first
      exact onward
    | succ n => exact goes n

/-- The next comparison after one of two values. -/
def following (pair : Value × Value) : Option (Value × Value) := apart? pair.1 pair.2

theorem runsOn_eq (steps : Nat) (a b : Value) :
    runsOn steps a b = (stepped following steps (a, b)).isSome := by
  induction steps generalizing a b with
  | zero => rfl
  | succ steps ih =>
    rw [runsOn, stepped, following]
    split
    · rename_i found
      rw [ih, found]
      rfl
    · rename_i ends
      rw [ends]
      rfl

theorem endless_of_stepped (goes : ∀ n, (stepped following n (a, b)).isSome = true) : Endless a b := by
  choose chain leads using fun n => Option.isSome_iff_exists.mp (goes n)
  refine ⟨chain, (Option.some.inj (leads 0)).symm, fun n => apart?_eq_some_iff.mp ?_⟩
  have onward := leads (n + 1)
  rw [stepped_add, leads n, Option.bind_some, stepped, Option.bind_eq_some_iff] at onward
  obtain ⟨pair, step, same⟩ := onward
  rw [← Option.some.inj same]
  exact step

theorem stepped_of_endless (endless : Endless a b) (n : Nat) : (stepped following n (a, b)).isSome = true := by
  induction n generalizing a b with
  | zero => rfl
  | succ n ih =>
    obtain ⟨x, y, enters, onward⟩ := endless_iff_enters.mp endless
    have step : following (a, b) = some (x, y) := apart?_eq_some_iff.mpr enters
    rw [stepped, step, Option.bind_some]
    exact ih onward

/-- A comparison that goes on for as many steps as there are pairs to come to has no end. -/
theorem endless_eq_true_iff : endless a b = true ↔ Endless a b := by
  unfold endless
  dsimp only
  rw [runsOn_eq]
  refine ⟨fun long => endless_of_stepped ?_, fun endless => stepped_of_endless endless _⟩
  have reached {u w : Value} (member : u ∈ w.entered) (there : w ∈ a.reach ++ b.reach) :
      u ∈ a.reach ++ b.reach := by
    rcases List.mem_append.mp there with left | right
    · exact List.mem_append_left _ (mem_reach_of_mem_entered member left)
    · exact List.mem_append_right _ (mem_reach_of_mem_entered member right)
  have self (v : Value) : v ∈ v.reach := List.mem_append_left _ (self_mem_written v)
  have start : (a, b) ∈ (a.reach ++ b.reach) ×ˢ (a.reach ++ b.reach) :=
    List.mem_product.mpr ⟨List.mem_append_left _ (self a), List.mem_append_right _ (self b)⟩
  refine stepped_isSome ?_ start ?_
  · rintro ⟨v, w⟩ there ⟨x, y⟩ step
    obtain ⟨left, right⟩ := List.mem_product.mp there
    refine List.mem_product.mpr ?_
    rcases (apart?_eq_some_iff.mp step).mem with ⟨first, second⟩ | ⟨first, second⟩
    · exact ⟨reached first left, reached second right⟩
    · exact ⟨reached first right, reached second left⟩
  · rw [List.length_product]
    exact long

theorem strictEquals_of_apart?_eq_none (kinds : a.kind = b.kind) (other : a.kind ≠ .number)
    (ends : apart? a b = none) : a.strictEquals b = .ok (same a b) := by
  have finite : endless a b = false := by
    rw [Bool.eq_false_iff, ne_eq, endless_eq_true_iff, endless_iff_enters]
    rintro ⟨x, y, enters, _⟩
    simp [apart?_eq_some_iff.mpr enters] at ends
  unfold strictEquals
  rw [if_neg (by simpa using kinds), if_neg (by simpa using other), finite]
  cases same a b <;> rfl

theorem entered_subset_parts (v : Value) : v.entered ⊆ v.parts := by
  intro u member
  unfold entered at member
  unfold parts members? entries?
  split at member <;> simp_all

theorem holds_knot_of_endless {a b : Value} (endless : Endless a b ∨ Endless b a) :
    ∃ nodes root, a.Holds (.knot nodes root) := by
  by_cases tied : ∃ nodes root, a = .knot nodes root
  · obtain ⟨nodes, root, rfl⟩ := tied
    exact ⟨nodes, root, .self _⟩
  -- What is no knot itself is compared by what stands in it, which is smaller.
  have onward : ∃ u ∈ a.entered, ∃ w, Endless u w ∨ Endless w u := by
    rcases endless with endless | endless
    all_goals
      obtain ⟨x, y, enters, onward⟩ := endless_iff_enters.mp endless
      rcases enters.mem with ⟨first, second⟩ | ⟨first, second⟩
    · exact ⟨x, first, y, .inl onward⟩
    · exact ⟨y, second, x, .inr onward⟩
    · exact ⟨y, second, x, .inr onward⟩
    · exact ⟨x, first, y, .inl onward⟩
  obtain ⟨u, member, w, onward⟩ := onward
  have smaller : sizeOf u < sizeOf a :=
    sizeOf_lt_of_mem_inner (mem_inner_of_mem_entered (by simpa using tied) member)
  obtain ⟨nodes, root, held⟩ := holds_knot_of_endless onward
  exact ⟨nodes, root, .part (entered_subset_parts a member) held⟩
termination_by sizeOf a

end Value

end Criteria
