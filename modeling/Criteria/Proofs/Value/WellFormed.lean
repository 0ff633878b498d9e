import Criteria.Proofs.Value.Equality
import Criteria.Value.Knot
import Mathlib.Data.List.Pairwise

set_option autoImplicit false
set_option relaxedAutoImplicit false

/-!
# Well-formed values

The type of values has members that stand for nothing: a link may lead nowhere, and a mapping may list a
key twice. In a well-formed value every link is one of a knot and leads to a container in it, and the keys
of all mappings are apart. Values that are put together entry by entry are well-formed, and so is what
linked parts unfold to or are tied to.
-/

namespace Criteria

namespace Value

section Keys

variable {alike : Value → Value → Bool} {entries : List (Value × Value)} {key value : Value}
  {e e' : Value × Value}

/-- No two keys are equal, and none has an ordered mapping in it, so that a key equal to one of them is equal to
it alone. -/
structure KeysApart (entries : List (Value × Value)) : Prop where
  apart : entries.Pairwise fun e e' => same e.1 e'.1 = false
  unordered : ∀ e ∈ entries, e.1.isUnordered = true

theorem KeysApart.eq_of_same (keys : KeysApart entries) (member : e ∈ entries) (member' : e' ∈ entries)
    (equal : same e.1 e'.1 = true) : e = e' := by
  have symm : Std.Symm fun e e' : Value × Value => same e.1 e'.1 = false := by
    refine ⟨fun e e' differ => ?_⟩
    rw [Bool.eq_false_iff] at differ ⊢
    exact fun equal => differ (same_symm equal)
  by_contra distinct
  have differ : same e.1 e'.1 = false := keys.apart.forall member member' distinct
  simp [equal] at differ

theorem mem_enterBy (member : e ∈ enterBy alike entries key value) :
    e ∈ entries ∨ e.2 = value ∧ (e.1 = key ∨ ∃ e' ∈ entries, e'.1 = e.1) := by
  induction entries with
  | nil =>
    obtain rfl := List.mem_singleton.mp member
    exact .inr ⟨rfl, .inl rfl⟩
  | cons first rest ih =>
    rw [enterBy] at member
    split at member
    · rcases List.mem_cons.mp member with rfl | later
      · exact .inr ⟨rfl, .inr ⟨first, List.mem_cons_self, rfl⟩⟩
      · exact .inl (List.mem_cons_of_mem _ later)
    · rcases List.mem_cons.mp member with rfl | later
      · exact .inl List.mem_cons_self
      · refine (ih later).imp (List.mem_cons_of_mem _) (And.imp_right (Or.imp_right ?_))
        rintro ⟨e', old, equal⟩
        exact ⟨e', List.mem_cons_of_mem _ old, equal⟩

theorem key_of_mem_enterBy (member : e ∈ enterBy alike entries key value) :
    e.1 = key ∨ ∃ e' ∈ entries, e'.1 = e.1 := by
  rcases mem_enterBy member with old | ⟨_, entered⟩
  · exact .inr ⟨e, old, rfl⟩
  · exact entered

theorem KeysApart.enterBy (keys : KeysApart entries) (unordered : key.isUnordered = true)
    (wider : ∀ k, same k key = true → alike k key = true) : KeysApart (enterBy alike entries key value) := by
  refine ⟨?_, ?_⟩
  · -- A key that is there keeps its place; a new one comes last, after all that it was compared with.
    have apart := keys.apart
    clear keys
    induction entries with
    | nil => exact List.pairwise_singleton _ _
    | cons first rest ih =>
      obtain ⟨differs, apart⟩ := List.pairwise_cons.mp apart
      rw [Value.enterBy]
      split
      · exact List.pairwise_cons.mpr ⟨differs, apart⟩
      · rename_i different
        refine List.pairwise_cons.mpr ⟨fun e member => ?_, ih apart⟩
        rcases key_of_mem_enterBy member with same | ⟨e', old, same⟩
        · rw [same]
          exact Bool.eq_false_iff.mpr fun equal => different (wider _ equal)
        · rw [← same]
          exact differs e' old
  · intro e member
    rcases key_of_mem_enterBy member with same | ⟨e', old, same⟩
    · rwa [same]
    · rw [← same]
      exact keys.unordered e' old

theorem keysApart_enterAll (unordered : ∀ e ∈ entries, e.1.isUnordered = true) :
    KeysApart (enterAll entries) := by
  refine List.foldlRecOn (motive := KeysApart) entries _ ⟨List.Pairwise.nil, by simp⟩ ?_
  intro kept keys e among
  exact keys.enterBy (unordered e among) fun _ => id

theorem value_of_mem_enterAll (member : e ∈ enterAll entries) : ∃ e' ∈ entries, e'.2 = e.2 := by
  let Given (kept : List (Value × Value)) : Prop := ∀ e ∈ kept, ∃ e' ∈ entries, e'.2 = e.2
  have given : Given (enterAll entries) := by
    refine List.foldlRecOn (motive := Given) entries _ (by simp [Given]) ?_
    intro kept given first among e member
    rcases mem_enterBy member with old | ⟨same, _⟩
    · exact given e old
    · exact ⟨first, among, same.symm⟩
  exact given e member

end Keys

/-- No link stands outside a knot or leads out of it, and no mapping has equal keys. -/
structure WellFormed (v : Value) : Prop where
  linked : ∀ w index, v.Holds w → w.untie ≠ .link index
  keys : ∀ w entries, v.Holds w → w.entries? = some entries → KeysApart entries

variable {v w : Value} {items : List Value} {entries : List (Value × Value)}

theorem wellFormed_of_closed {P : Value → Prop} (start : P v) (linked : ∀ w index, P w → w.untie ≠ .link index)
    (keys : ∀ w entries, P w → w.entries? = some entries → KeysApart entries)
    (closed : ∀ w, P w → ∀ part ∈ w.parts, P part) : v.WellFormed := by
  have held {w : Value} (holds : v.Holds w) : P w := by
    induction holds with
    | self => exact start
    | part member _ ih => exact ih (closed _ start _ member)
  exact ⟨fun w index holds => linked w index (held holds), fun w entries holds => keys w entries (held holds)⟩

theorem WellFormed.of_parts (linked : ∀ index, v.untie ≠ .link index)
    (keys : ∀ entries, v.entries? = some entries → KeysApart entries)
    (inside : ∀ part ∈ v.parts, part.WellFormed) : v.WellFormed := by
  refine ⟨fun w index holds => ?_, fun w entries holds => ?_⟩
  · rcases holds_iff.mp holds with rfl | ⟨part, member, holds⟩
    · exact linked index
    · exact (inside part member).linked w index holds
  · rcases holds_iff.mp holds with rfl | ⟨part, member, holds⟩
    · exact keys entries
    · exact (inside part member).keys w entries holds

theorem WellFormed.apart (formed : v.WellFormed) (form : MapForm) (entries : List (Value × Value))
    (held : v.Holds (.mapping form entries)) : KeysApart entries :=
  formed.keys _ _ held rfl

theorem WellFormed.ne_link (formed : v.WellFormed) (index : Nat) : v ≠ .link index := by
  rintro rfl
  exact formed.linked _ index (.self _) rfl

theorem WellFormed.of_mem_parts {part : Value} (formed : v.WellFormed) (member : part ∈ v.parts) :
    part.WellFormed :=
  ⟨fun w index holds => formed.linked w index (.part member holds),
    fun w entries holds => formed.keys w entries (.part member holds)⟩

theorem wellFormed_of_isAtom (atom : v.isAtom = true) : v.WellFormed := by
  cases v with
  | null | bool | number | text | bytes | date | dateTime =>
    refine .of_parts (fun index linked => ?_) (fun entries own => ?_) ?_
    · simp [untie] at linked
    · simp [entries?, untie] at own
    · simp [parts, members?, entries?, untie]
  | _ => simp [isAtom] at atom

theorem wellFormed_array {form : ArrayForm} (each : ∀ item ∈ items, item.WellFormed) :
    (Value.array form items).WellFormed :=
  .of_parts nofun nofun (by simpa [parts, members?, entries?, untie] using each)

theorem wellFormed_set {frozen : Bool} (each : ∀ item ∈ items, item.WellFormed) :
    (Value.set frozen items).WellFormed :=
  .of_parts nofun nofun (by simpa [parts, members?, entries?, untie] using each)

theorem wellFormed_mapping {form : MapForm} (keys : KeysApart entries)
    (each : ∀ e ∈ entries, e.2.WellFormed) : (Value.mapping form entries).WellFormed := by
  refine .of_parts nofun ?_ ?_
  · intro entries' own
    obtain rfl : entries = entries' := by simpa [entries?, untie] using own
    exact keys
  · intro part member
    obtain ⟨e, among, rfl⟩ : ∃ e ∈ entries, e.2 = part := by
      simpa [parts, members?, entries?, untie] using member
    exact each e among

theorem wellFormed_enterAll (unordered : ∀ e ∈ entries, e.1.isUnordered = true)
    (each : ∀ e ∈ entries, e.2.WellFormed) : (plain (enterAll entries)).WellFormed := by
  refine wellFormed_mapping (keysApart_enterAll unordered) fun e member => ?_
  obtain ⟨e', among, same⟩ := value_of_mem_enterAll member
  exact same ▸ each e' among

/-! ## Linked parts -/

/-- A part that others link to: an atom, or a container of links or of atoms, its keys apart. -/
def IsPart : Value → Prop
  | .array _ items => ∀ item ∈ items, ∃ place, item = .link place
  | .mapping _ entries => KeysApart entries ∧ ∀ e ∈ entries, ∃ place, e.2 = .link place
  | .set _ items => ∀ item ∈ items, item.isAtom = true
  | v => v.isAtom = true

theorem IsPart.of_isAtom (atom : v.isAtom = true) : v.IsPart := by
  cases v with
  | null | bool | number | text | bytes | date | dateTime => exact atom
  | _ => simp [isAtom] at atom

theorem isUnordered_of_isAtom (atom : v.isAtom = true) : v.isUnordered = true := by
  cases v with
  | null | bool | number | text | bytes | date | dateTime => rfl
  | _ => simp [isAtom] at atom

theorem KeysApart.congr {entries' : List (Value × Value)} (keys : KeysApart entries)
    (same : List.Forall₂ (fun e e' => e.1 = e'.1) entries entries') : KeysApart entries' := by
  have listed : entries.map Prod.fst = entries'.map Prod.fst := by
    rw [← List.forall₂_eq_eq_eq, List.forall₂_map_left_iff, List.forall₂_map_right_iff]
    exact same
  refine ⟨?_, fun e member => ?_⟩
  · have apart : (entries.map Prod.fst).Pairwise fun k k' => Value.same k k' = false :=
      List.pairwise_map.mpr keys.apart
    exact List.pairwise_map.mp (listed ▸ apart)
  · obtain ⟨e', among, key⟩ := List.mem_map.mp (listed ▸ List.mem_map_of_mem member)
    exact key ▸ keys.unordered e' among

section Unfolding

variable {f : Value → Option Value}

theorem of_overItems_array {form : ArrayForm} (replaced : (Value.array form items).overItems f = some v) :
    ∃ items', List.Forall₂ (fun item item' => f item = some item') items items' ∧ v = .array form items' := by
  obtain ⟨items', mapped, same⟩ := Option.bind_eq_some_iff.mp replaced
  exact ⟨items', Search.mapM_eq_some_iff.mp mapped, (Option.some.inj same).symm⟩

theorem of_overItems_mapping {form : MapForm} (replaced : (Value.mapping form entries).overItems f = some v) :
    ∃ entries', List.Forall₂ (fun e e' => e.1 = e'.1 ∧ f e.2 = some e'.2) entries entries' ∧
      v = .mapping form entries' := by
  obtain ⟨entries', mapped, same⟩ := Option.bind_eq_some_iff.mp replaced
  refine ⟨entries', (Search.mapM_eq_some_iff.mp mapped).imp fun e e' entry => ?_, (Option.some.inj same).symm⟩
  obtain ⟨value, found, rfl⟩ := Option.map_eq_some_iff.mp ((Option.map_eq_bind (x := f e.2)).trans entry)
  exact ⟨rfl, found⟩

end Unfolding

section Parts

variable {all : Array Value} (each : ∀ place, (all.getD place .null).IsPart)

include each

theorem wellFormed_of_unfolding {depth place : Nat} (unfolds : unfolding? all depth place = some v) :
    v.WellFormed := by
  induction depth generalizing place v with
  | zero => simp [unfolding?] at unfolds
  | succ depth ih =>
    have part := each place
    rw [unfolding?] at unfolds
    generalize all.getD place .null = shape at part unfolds
    cases shape with
    | array form items =>
      obtain ⟨items', unfolded, rfl⟩ := of_overItems_array unfolds
      refine wellFormed_array fun item' member => ?_
      obtain ⟨item, among, inner⟩ := Search.exists_of_forall₂ unfolded.flip item' member
      obtain ⟨place, rfl⟩ := part item among
      exact ih inner
    | mapping form entries =>
      obtain ⟨entries', unfolded, rfl⟩ := of_overItems_mapping unfolds
      refine wellFormed_mapping (part.1.congr (unfolded.imp fun _ _ entry => entry.1)) fun e' member => ?_
      obtain ⟨e, among, _, inner⟩ := Search.exists_of_forall₂ unfolded.flip e' member
      obtain ⟨place, link⟩ := part.2 e among
      rw [link] at inner
      exact ih inner
    | set frozen items =>
      obtain rfl : Value.set frozen items = v := Option.some.inj unfolds
      exact wellFormed_set fun item member => wellFormed_of_isAtom (part item member)
    | _ =>
      obtain rfl := Option.some.inj unfolds
      exact wellFormed_of_isAtom part

omit each in
/-- Only a container of parts can fail to unfold. -/
theorem container_of_unfolding_eq_none {depth place : Nat}
    (endless : unfolding? all (depth + 1) place = none) :
    (∃ form items, all.getD place .null = .array form items) ∨
      ∃ form entries, all.getD place .null = .mapping form entries := by
  rw [unfolding?] at endless
  cases shape : all.getD place .null with
  | array form items => exact .inl ⟨form, items, rfl⟩
  | mapping form entries => exact .inr ⟨form, entries, rfl⟩
  | _ =>
    rw [shape] at endless
    exact absurd endless nofun

omit each in
theorem lt_size_of_unfolding_eq_none {place : Nat} (some_part : 0 < all.size)
    (endless : unfolding? all all.size place = none) : place < all.size := by
  obtain ⟨depth, size⟩ : ∃ depth, all.size = depth + 1 := ⟨all.size - 1, by omega⟩
  by_contra outside
  have null : all.getD place .null = .null := by simp [Array.getD, outside]
  rw [size] at endless
  rcases container_of_unfolding_eq_none endless with ⟨_, _, shape⟩ | ⟨_, _, shape⟩
  · exact absurd (null.symm.trans shape) nofun
  · exact absurd (null.symm.trans shape) nofun

omit each in
theorem unfolding_eq_none_of_mem {place : Nat} (member : place ∈ endlessParts all) :
    unfolding? all all.size place = none := by
  rw [endlessParts, List.mem_filter] at member
  exact Option.isNone_iff_eq_none.mp member.2

omit each in
theorem mem_endlessParts {place : Nat} (some_part : 0 < all.size)
    (endless : unfolding? all all.size place = none) : place ∈ endlessParts all := by
  rw [endlessParts, List.mem_filter, List.mem_range]
  exact ⟨lt_size_of_unfolding_eq_none some_part endless, by simp [endless]⟩

omit each in
theorem tiedPart_of_array {endless : List Nat} {place : Nat} {form : ArrayForm}
    (shape : all.getD place .null = .array form items) :
    tiedPart all endless place = .array form (items.map (tie all endless)) := by
  rw [tiedPart, shape]
  exact congrArg (Value.array form) (List.mapM_pure (m := Id))

omit each in
theorem tiedPart_of_mapping {endless : List Nat} {place : Nat} {form : MapForm}
    (shape : all.getD place .null = .mapping form entries) :
    tiedPart all endless place = .mapping form (entries.map fun e => (e.1, tie all endless e.2)) := by
  rw [tiedPart, shape]
  exact congrArg (Value.mapping form) (List.mapM_pure (m := Id))

/-- A part seen from within the knot of those that have no end: unfolded, or as the knot. -/
def IsSeen (all : Array Value) (v : Value) : Prop :=
  v.WellFormed ∨ ∃ place ∈ endlessParts all,
    v = .knot ((endlessParts all).map (tiedPart all (endlessParts all))) ((endlessParts all).idxOf place)

theorem isSeen_tie (some_part : 0 < all.size) {link : Value} (linked : ∃ place, link = .link place) :
    IsSeen all (within ((endlessParts all).map (tiedPart all (endlessParts all)))
      (tie all (endlessParts all) link)) := by
  obtain ⟨place, rfl⟩ := linked
  rw [tie]
  cases unfolds : unfolding? all all.size place with
  | some u =>
    have formed := wellFormed_of_unfolding each unfolds
    left
    cases u with
    | link index => exact absurd rfl (formed.ne_link index)
    | _ => exact formed
  | none => exact .inr ⟨place, mem_endlessParts some_part unfolds, rfl⟩

theorem untie_of_endless (some_part : 0 < all.size) {place : Nat} (member : place ∈ endlessParts all) :
    let shown := (Value.knot ((endlessParts all).map (tiedPart all (endlessParts all)))
      ((endlessParts all).idxOf place)).untie
    (∃ form items, shown = .array form items ∧ ∀ item ∈ items, IsSeen all item) ∨
      ∃ form entries, shown = .mapping form entries ∧ KeysApart entries ∧ ∀ e ∈ entries, IsSeen all e.2 := by
  intro shown
  obtain ⟨depth, size⟩ : ∃ depth, all.size = depth + 1 := ⟨all.size - 1, by omega⟩
  have endless := unfolding_eq_none_of_mem member
  rw [size] at endless
  have part := each place
  have node : ((endlessParts all).map (tiedPart all (endlessParts all)))[(endlessParts all).idxOf place]? =
      some (tiedPart all (endlessParts all) place) := by
    rw [List.getElem?_map, List.getElem?_idxOf member, Option.map_some]
  rcases container_of_unfolding_eq_none endless with ⟨form, items, shape⟩ | ⟨form, entries, shape⟩
  · rw [shape] at part
    rw [tiedPart_of_array shape] at node
    refine .inl ⟨form, _, by simp only [shown, untie, node]; rfl, ?_⟩
    rw [List.map_map, List.forall_mem_map]
    exact fun item member => isSeen_tie each some_part (part item member)
  · rw [shape] at part
    rw [tiedPart_of_mapping shape] at node
    refine .inr ⟨form, _, by simp only [shown, untie, node]; rfl, ?_, ?_⟩
    · refine part.1.congr ?_
      rw [List.map_map, List.forall₂_map_right_iff, List.forall₂_same]
      exact fun e _ => rfl
    · rw [List.map_map, List.forall_mem_map]
      exact fun e member => isSeen_tie each some_part (part.2 e member)

/-- What linked parts unfold to or are tied to is well-formed. -/
theorem wellFormed_ofParts {root : Nat} (some_part : 0 < all.size) : (ofParts all root).WellFormed := by
  rw [ofParts]
  split
  · rename_i v unfolds
    exact wellFormed_of_unfolding each unfolds
  · rename_i endless
    refine wellFormed_of_closed (P := IsSeen all) (.inr ⟨root, mem_endlessParts some_part endless, rfl⟩) ?_ ?_ ?_
    · rintro w index (formed | ⟨place, member, rfl⟩)
      · exact formed.linked w index (.self w)
      · rcases untie_of_endless each some_part member with ⟨_, _, shown, _⟩ | ⟨_, _, shown, _⟩
        · simp [shown]
        · simp [shown]
    · rintro w entries (formed | ⟨place, member, rfl⟩) listed
      · exact formed.keys w entries (.self w) listed
      · rcases untie_of_endless each some_part member with ⟨_, _, shown, _⟩ | ⟨_, _, shown, keys, _⟩
        · simp [entries?, shown] at listed
        · simp only [entries?, shown, Option.some.injEq] at listed
          exact listed ▸ keys
    · rintro w (formed | ⟨place, member, rfl⟩) part among
      · exact .inl (formed.of_mem_parts among)
      · rcases untie_of_endless each some_part member with ⟨_, _, shown, seen⟩ | ⟨_, entries, shown, _, seen⟩
        · exact seen part (by simpa [parts, members?, entries?, shown] using among)
        · obtain ⟨e, entered, rfl⟩ : ∃ e ∈ entries, e.2 = part := by
            simpa [parts, members?, entries?, shown] using among
          exact seen e entered

end Parts

end Value

end Criteria
