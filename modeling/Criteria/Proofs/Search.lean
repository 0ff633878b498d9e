import Criteria.Fault
import Mathlib.Data.List.Forall2

set_option autoImplicit false
set_option relaxedAutoImplicit false

/-!
# Answers that may be errors

One computation after another fails where the first fails or the second does. `List.allM` and
`List.anyM` stop at the first item that settles the answer, or at the first error, so what they answer
says something about all items, or about one of them.
-/

namespace Criteria.Search

variable {α β ε : Type} {test : α → Except ε Bool}

theorem bind_eq_ok_iff {x : Except ε α} {next : α → Except ε β} {b : β} :
    x >>= next = .ok b ↔ ∃ a, x = .ok a ∧ next a = .ok b := by
  cases x <;> simp [bind, Except.bind]

theorem bind_eq_error_iff {x : Except ε α} {next : α → Except ε β} {e : ε} :
    x >>= next = .error e ↔ x = .error e ∨ ∃ a, x = .ok a ∧ next a = .error e := by
  cases x <;> simp [bind, Except.bind]

theorem eq_error_of_map {x : Except ε α} {g : α → β} {e : ε} (stopped : g <$> x = .error e) :
    x = .error e := by
  cases x with
  | error e' => simpa [Functor.map, Except.map] using stopped
  | ok a => simp [Functor.map, Except.map] at stopped

theorem eq_error_of_bind_pure {x : Except ε α} {g : α → β} {e : ε}
    (stopped : (x >>= fun a => pure (g a)) = .error e) : x = .error e := by
  rw [bind_pure_comp] at stopped
  exact eq_error_of_map stopped

theorem eq_ok_of_map {x : Except ε α} {g : α → β} {b : β} (answer : x.map g = .ok b) :
    ∃ a, x = .ok a ∧ g a = b := by
  cases x with
  | error e => simp [Except.map] at answer
  | ok a => exact ⟨a, rfl, Except.ok.inj answer⟩

theorem eq_ok_of_mapError {ε' : Type} {x : Except ε α} {tell : ε → ε'} {a : α}
    (answer : x.mapError tell = .ok a) : x = .ok a := by
  cases x with
  | error e => simp [Except.mapError] at answer
  | ok a' => exact congrArg _ (Except.ok.inj answer)

theorem exists_of_toOption_map {x : Except ε α} {g : α → β} {b : β}
    (mapped : x.toOption.map g = some b) : ∃ a, x = .ok a ∧ g a = b := by
  cases x with
  | error e => simp [Except.toOption] at mapped
  | ok a => exact ⟨a, rfl, Option.some.inj mapped⟩

theorem allM_singleton (test : α → Except ε Bool) (item : α) : [item].allM test = test item := by
  rw [List.allM]
  cases test item with
  | error e => rfl
  | ok b => cases b <;> rfl

theorem anyM_singleton (test : α → Except ε Bool) (item : α) : [item].anyM test = test item := by
  rw [List.anyM]
  cases test item with
  | error e => rfl
  | ok b => cases b <;> rfl

theorem allM_eq_true_iff (items : List α) :
    items.allM test = .ok true ↔ ∀ item ∈ items, test item = .ok true := by
  induction items with
  | nil => simp [List.allM, pure, Except.pure]
  | cons item rest ih =>
    cases answer : test item with
    | error e => simp [List.allM, bind, Except.bind, answer]
    | ok b => cases b <;> simp [List.allM, bind, Except.bind, pure, Except.pure, answer, ih]

theorem anyM_eq_false_iff (items : List α) :
    items.anyM test = .ok false ↔ ∀ item ∈ items, test item = .ok false := by
  induction items with
  | nil => simp [List.anyM, pure, Except.pure]
  | cons item rest ih =>
    cases answer : test item with
    | error e => simp [List.anyM, bind, Except.bind, answer]
    | ok b => cases b <;> simp [List.anyM, bind, Except.bind, pure, Except.pure, answer, ih]

theorem exists_of_anyM {items : List α} {r : Except ε Bool} (settled : items.anyM test = r)
    (early : r ≠ .ok false) : ∃ item ∈ items, test item = r := by
  induction items with
  | nil => exact absurd settled.symm early
  | cons item rest ih =>
    rw [List.anyM] at settled
    have here (stops : test item = r) : ∃ found ∈ item :: rest, test found = r :=
      ⟨item, List.mem_cons_self, stops⟩
    cases answer : test item with
    | error e =>
      rw [answer] at settled
      exact here (answer.trans settled)
    | ok b =>
      rw [answer] at settled
      cases b with
      | true => exact here (answer.trans settled)
      | false =>
        obtain ⟨found, member, stops⟩ := ih settled
        exact ⟨found, List.mem_cons_of_mem item member, stops⟩

theorem exists_of_allM {items : List α} {r : Except ε Bool} (settled : items.allM test = r)
    (early : r ≠ .ok true) : ∃ item ∈ items, test item = r := by
  have twice (x : Except ε Bool) : not <$> not <$> x = x := by
    cases x <;> simp [Functor.map, Except.map]
  rw [List.allM_eq_not_anyM_not] at settled
  have opposite : (items.anyM fun item => not <$> test item) = not <$> r := by rw [← settled, twice]
  have unsettled : not <$> r ≠ .ok false := by
    intro fails
    rw [← twice r, fails] at early
    exact early rfl
  obtain ⟨item, member, same⟩ := exists_of_anyM opposite unsettled
  exact ⟨item, member, by rw [← twice (test item), same, twice]⟩

/-- Two searches that both answer give one answer, when each item of one list is matched by an item
of the other that does not answer differently. The searches may stop at different items. -/
theorem allM_agree {items : List α} {items' : List β} {test' : β → Except ε Bool}
    (forth : ∀ item ∈ items, ∃ item' ∈ items', ∀ b b',
      test item = .ok b → test' item' = .ok b' → b = b')
    (back : ∀ item' ∈ items', ∃ item ∈ items, ∀ b b',
      test item = .ok b → test' item' = .ok b' → b = b')
    {b b' : Bool} (first : items.allM test = .ok b) (second : items'.allM test' = .ok b') :
    b = b' := by
  cases b with
  | true =>
    cases b' with
    | true => rfl
    | false =>
      obtain ⟨item', member', fails⟩ := exists_of_allM second (by simp)
      obtain ⟨item, member, agree⟩ := back item' member'
      exact agree _ _ ((allM_eq_true_iff items).mp first item member) fails
  | false =>
    cases b' with
    | false => rfl
    | true =>
      obtain ⟨item, member, fails⟩ := exists_of_allM first (by simp)
      obtain ⟨item', member', agree⟩ := forth item member
      exact agree _ _ fails ((allM_eq_true_iff items').mp second item' member')

theorem allM_of_answers {items : List α} {answer : α → Bool}
    (answers : ∀ item ∈ items, test item = .ok (answer item)) :
    items.allM test = .ok (items.all answer) := by
  induction items with
  | nil => rfl
  | cons item rest ih =>
    have here : test item = .ok (answer item) := answers item List.mem_cons_self
    have later : rest.allM test = .ok (rest.all answer) :=
      ih fun x member => answers x (List.mem_cons_of_mem item member)
    cases first : answer item <;>
      simp [List.allM, bind, Except.bind, pure, Except.pure, here, first, later]

theorem anyM_of_forall_true {items : List α} (holds : ∀ item ∈ items, test item = .ok true) :
    items.anyM test = .ok (!items.isEmpty) := by
  cases items with
  | nil => rfl
  | cons item rest =>
    have first : test item = .ok true := holds item List.mem_cons_self
    simp [List.anyM, bind, Except.bind, pure, Except.pure, first]

theorem allM_map_eq_mapError {ε' : Type} {items : List α} {g : α → β} {tell : ε → ε'}
    {test' : β → Except ε' Bool}
    (same : ∀ item ∈ items, test' (g item) = (test item).mapError tell) :
    (items.map g).allM test' = (items.allM test).mapError tell := by
  induction items with
  | nil => rfl
  | cons item rest ih =>
    have here := same item List.mem_cons_self
    have later := ih fun x member => same x (List.mem_cons_of_mem item member)
    rw [List.map_cons, List.allM, List.allM, here]
    cases answer : test item with
    | error e => rfl
    | ok b =>
      cases b with
      | true => exact later
      | false => rfl

theorem mapM_eq_ok_iff {f : α → Except ε β} {items : List α} {results : List β} :
    items.mapM f = .ok results ↔ List.Forall₂ (fun item result => f item = .ok result) items results := by
  induction items generalizing results with
  | nil => cases results <;> simp [pure, Except.pure]
  | cons first rest ih =>
    rw [List.mapM_cons, bind_eq_ok_iff]
    constructor
    · rintro ⟨b, answer, later⟩
      obtain ⟨bs, answers, same⟩ := bind_eq_ok_iff.mp later
      cases same
      exact .cons answer (ih.mp answers)
    · rintro (_ | ⟨answer, answers⟩)
      exact ⟨_, answer, bind_eq_ok_iff.mpr ⟨_, ih.mpr answers, rfl⟩⟩

theorem mapM_eq_some_iff {f : α → Option β} {items : List α} {results : List β} :
    items.mapM f = some results ↔ List.Forall₂ (fun item result => f item = some result) items results := by
  induction items generalizing results with
  | nil => cases results <;> simp
  | cons first rest ih =>
    rw [List.mapM_cons, Option.bind_eq_bind, Option.bind_eq_some_iff]
    constructor
    · rintro ⟨b, answer, later⟩
      obtain ⟨bs, answers, same⟩ := Option.bind_eq_some_iff.mp later
      cases same
      exact .cons answer (ih.mp answers)
    · rintro (_ | ⟨answer, answers⟩)
      exact ⟨_, answer, Option.bind_eq_some_iff.mpr ⟨_, ih.mpr answers, rfl⟩⟩

theorem exists_of_forall₂ {R : α → β → Prop} {items : List α} {items' : List β}
    (matched : List.Forall₂ R items items') : ∀ item ∈ items, ∃ item' ∈ items', R item item' := by
  induction matched with
  | nil => simp
  | @cons first first' rest rest' here _ ih =>
    intro item member
    rcases List.mem_cons.mp member with rfl | later
    · exact ⟨first', List.mem_cons_self, here⟩
    · obtain ⟨item', member', found⟩ := ih item later
      exact ⟨item', List.mem_cons_of_mem first' member', found⟩

theorem exists_split_cons_iff {first : α} {rest : List α} {P : List α → α → List α → Prop} :
    (∃ before item after, first :: rest = before ++ item :: after ∧ P before item after) ↔
      P [] first rest ∨
        ∃ before item after, rest = before ++ item :: after ∧ P (first :: before) item after := by
  constructor
  · rintro ⟨before, item, after, split, holds⟩
    rcases List.cons_eq_append_iff.mp split with ⟨rfl, same⟩ | ⟨before, rfl, later⟩
    · obtain ⟨rfl, rfl⟩ := List.cons.inj same
      exact .inl holds
    · exact .inr ⟨before, item, after, later, holds⟩
  · rintro (holds | ⟨before, item, after, rfl, holds⟩)
    · exact ⟨[], first, rest, rfl, holds⟩
    · exact ⟨first :: before, item, after, rfl, holds⟩

theorem mapM_eq_error_iff {f : α → Except ε β} {items : List α} {e : ε} :
    items.mapM f = .error e ↔ ∃ before item after, items = before ++ item :: after ∧
      (∀ x ∈ before, ∃ b, f x = .ok b) ∧ f item = .error e := by
  induction items with
  | nil => simp [pure, Except.pure]
  | cons first rest ih =>
    rw [List.mapM_cons, bind_eq_error_iff, exists_split_cons_iff]
    simp only [List.forall_mem_cons]
    constructor
    · rintro (here | ⟨b, answer, later⟩)
      · exact .inl ⟨nofun, here⟩
      · obtain ⟨before, item, after, split, passed, stops⟩ := ih.mp (eq_error_of_bind_pure later)
        exact .inr ⟨before, item, after, split, ⟨⟨b, answer⟩, passed⟩, stops⟩
    · rintro (⟨_, here⟩ | ⟨before, item, after, split, ⟨⟨b, answer⟩, passed⟩, stops⟩)
      · exact .inl here
      · have later : rest.mapM f = .error e := ih.mpr ⟨before, item, after, split, passed, stops⟩
        exact .inr ⟨b, answer, bind_eq_error_iff.mpr (.inl later)⟩

end Criteria.Search
