import Criteria.Path
import Criteria.Proofs.Value.Range

set_option autoImplicit false
set_option relaxedAutoImplicit false

/-!
# What a path selects, and what can stop it

A path selects a part of a value, a text, or nothing, so whatever can stop a later test was in the value
before. It is stopped itself only by an attribute that cannot be read and by an index that is written
with too many digits.
-/

namespace Criteria

namespace Value

/-- What can stop a test or a path that meets it: a number out of range, an object, or a container that holds
itself. -/
inductive IsRisky : Value → Prop
  | number {n : Number} {f : Fault} : n.OutOfRange f → IsRisky (.number n)
  | object (attributes : List (String × Value)) (broken : List String) :
      IsRisky (.object attributes broken)
  | knot (nodes : List Value) (root : Nat) : IsRisky (.knot nodes root)

/-- A value covers another when it holds all that is risky in it. -/
def Covers (v next : Value) : Prop := ∀ w, w.IsRisky → next.Holds w → v.Holds w

variable {v next : Value}

theorem Covers.refl (v : Value) : v.Covers v := fun _ _ held => held

theorem Covers.trans {last : Value} (first : v.Covers next) (second : next.Covers last) :
    v.Covers last :=
  fun w risky held => first w risky (second w risky held)

theorem covers_of_mem_parts (member : next ∈ v.parts) : v.Covers next :=
  fun _ _ held => .part member held

theorem covers_of_parts_eq_nil (whole : next.parts = []) (safe : ¬ next.IsRisky) :
    v.Covers next := by
  intro w risky held
  cases held with
  | self => exact absurd risky safe
  | part member _ => simp [whole] at member

theorem covers_undefined : v.Covers .undefined :=
  covers_of_parts_eq_nil rfl (by rintro ⟨⟩)

theorem covers_text (s : String) : v.Covers (.text s) :=
  covers_of_parts_eq_nil rfl (by rintro ⟨⟩)

theorem covers_float (x : BinaryFloat) : v.Covers (.number (.float x)) :=
  covers_of_parts_eq_nil rfl (by rintro (⟨⟨⟩⟩ | _))

theorem covers_function (f : FunctionName) : v.Covers (.function f) :=
  covers_of_parts_eq_nil rfl (by rintro ⟨⟩)

theorem mem_of_lookup {key : String} {entries : List (Value × Value)}
    (found : lookup key entries = some next) : next ∈ entries.map Prod.snd := by
  induction entries with
  | nil => simp [lookup] at found
  | cons entry rest ih =>
    obtain ⟨name, held⟩ := entry
    have later : lookup key rest = some next → next ∈ ((name, held) :: rest).map Prod.snd :=
      fun foundLater => List.mem_cons_of_mem _ (ih foundLater)
    cases name with
    | text s =>
      rw [lookup] at found
      split at found
      · simp [Option.some.inj found]
      · exact later found
    | _ => exact later (by simpa [lookup] using found)

end Value

namespace Path

/-- What stops a path of segments: an attribute that cannot be read, or an index of too many digits. -/
inductive Obstacle (v : Value) (segments : List String) : Fault → Prop
  | unreadable {attributes : List (String × Value)} {broken : List String} {name : String} :
      v.Holds (.object attributes broken) → name ∈ broken →
      Obstacle v segments (.brokenAttribute name)
  | digits {segment : String} :
      segment ∈ segments → isIndex segment = true → digitLimit < segment.toList.length →
      Obstacle v segments (.tooManyDigits segment.toList.length)

variable {v next path : Value} {segment : String} {f : Fault}

theorem mem_of_lookup_attribute {attributes : List (String × Value)}
    (found : attributes.lookup segment = some next) : (segment, next) ∈ attributes := by
  obtain ⟨before, after, rfl, _⟩ := List.lookup_eq_some_iff.mp found
  exact List.mem_append_right before List.mem_cons_self

theorem readAttribute_mem {attributes : List (String × Value)} {broken : List String}
    (read : readAttribute attributes broken segment = .ok next) :
    next = .undefined ∨ next ∈ attributes.map Prod.snd := by
  unfold readAttribute at read
  split at read
  · exact .inl (Except.ok.inj read).symm
  · split at read
    · simp at read
    · rw [← Except.ok.inj read]
      cases found : attributes.lookup segment with
      | none => exact .inl rfl
      | some held =>
        exact .inr (List.mem_map_of_mem (mem_of_lookup_attribute found))

theorem broken_of_readAttribute {attributes : List (String × Value)} {broken : List String}
    (stopped : readAttribute attributes broken segment = .error f) :
    segment ∈ broken ∧ f = .brokenAttribute segment := by
  unfold readAttribute at stopped
  split at stopped
  · simp at stopped
  · split at stopped
    · rename_i contained
      exact ⟨List.contains_iff_mem.mp contained, (Except.error.inj stopped).symm⟩
    · simp at stopped

theorem step_covers (selected : step v segment = .ok next) : v.Covers next := by
  unfold step at selected
  split at selected
  · rename_i form entries untied
    rw [← Except.ok.inj selected]
    cases found : Value.lookup segment entries with
    | none => exact Value.covers_undefined
    | some held =>
      apply Value.covers_of_mem_parts
      simp [Value.parts, Value.entries?, untied, Value.mem_of_lookup found]
  · rename_i form items untied
    -- Asked for an item by its text, a sequence gives that text or nothing, and neither is risky.
    have item_covered : v.Covers (itemNamed items segment) := by
      unfold itemNamed
      split
      · exact Value.covers_text segment
      · exact Value.covers_undefined
    by_cases written : isIndex segment = true
    · simp only [written, if_true] at selected
      obtain ⟨place, _, chosen⟩ := Search.bind_eq_ok_iff.mp selected
      split at chosen
      · rename_i held found
        rw [← Except.ok.inj chosen]
        apply Value.covers_of_mem_parts
        simp [Value.parts, Value.members?, untied, List.mem_of_getElem? found]
      · rw [← Except.ok.inj chosen]
        exact item_covered
    · simp only [written] at selected
      rw [← Except.ok.inj selected]
      exact item_covered
  · rename_i attributes broken untied
    rcases readAttribute_mem selected with rfl | member
    · exact Value.covers_undefined
    · rw [Value.eq_of_untie untied (by simp) (by simp) (by simp)]
      exact Value.covers_of_mem_parts (List.mem_append_right _ member)
  · rename_i re im untied
    rcases readAttribute_mem selected with rfl | member
    · exact Value.covers_undefined
    · simp only [complexAttributes, List.map_cons, List.map_nil, List.mem_cons, List.not_mem_nil,
        or_false] at member
      rcases member with rfl | rfl | rfl
      · exact Value.covers_float re
      · exact Value.covers_float im
      · exact Value.covers_function .conjugate
  · rw [← Except.ok.inj selected]
    exact Value.covers_undefined

theorem obstacle_of_step (stopped : step v segment = .error f) : Obstacle v [segment] f := by
  unfold step at stopped
  split at stopped
  · simp at stopped
  · by_cases written : isIndex segment = true
    · simp only [written, if_true] at stopped
      rcases Search.bind_eq_error_iff.mp stopped with failed | ⟨place, _, chosen⟩
      · simp only [index] at failed
        split at failed
        · rename_i long
          rw [← Except.error.inj failed]
          exact .digits (List.mem_singleton_self segment) written long
        · simp at failed
      · split at chosen <;> simp [pure, Except.pure] at chosen
    · simp [written] at stopped
  · rename_i attributes broken untied
    obtain ⟨member, rfl⟩ := broken_of_readAttribute stopped
    rw [Value.eq_of_untie untied (by simp) (by simp) (by simp)]
    exact .unreadable (.self _) member
  · have member := (broken_of_readAttribute stopped).1
    simp at member
  · simp at stopped

theorem Obstacle.of_covers {segments more : List String} (met : Obstacle next segments f)
    (covered : v.Covers next) (fewer : segments ⊆ more) : Obstacle v more f := by
  cases met with
  | unreadable held member => exact .unreadable (covered _ (.object ..) held) member
  | digits member written long => exact .digits (fewer member) written long

theorem walk_covers {segments : List String} (selected : walk v segments = .ok next) :
    v.Covers next := by
  induction segments generalizing v with
  | nil =>
    rw [← Except.ok.inj selected]
    exact .refl v
  | cons segment rest ih =>
    obtain ⟨found, taken, onward⟩ := Search.bind_eq_ok_iff.mp selected
    split at onward
    · rw [← Except.ok.inj onward]
      exact Value.covers_undefined
    · exact (step_covers taken).trans (ih onward)

theorem obstacle_of_walk {segments : List String} (stopped : walk v segments = .error f) :
    Obstacle v segments f := by
  induction segments generalizing v with
  | nil => simp [walk] at stopped
  | cons segment rest ih =>
    rcases Search.bind_eq_error_iff.mp stopped with here | ⟨found, taken, onward⟩
    · exact (obstacle_of_step here).of_covers (.refl v) (by simp)
    · split at onward
      · simp [pure, Except.pure] at onward
      · exact (ih onward).of_covers (step_covers taken) (List.subset_cons_self segment rest)

theorem select_covers (selected : select v path = .ok next) : v.Covers next := by
  unfold select at selected
  split at selected
  · rw [← Except.ok.inj selected]
    exact .refl v
  · exact walk_covers selected
  · rw [← Except.ok.inj selected]
    exact Value.covers_undefined

theorem obstacle_of_select (stopped : select v path = .error f) :
    ∃ text, path = .text text ∧ Obstacle v (segments text) f := by
  unfold select at stopped
  split at stopped
  · simp at stopped
  · exact ⟨_, rfl, obstacle_of_walk stopped⟩
  · simp at stopped

variable {fallback : Option Value}

theorem resolve_covers (selected : resolve v path fallback = .ok next) :
    v.Covers next ∨ ∃ data, fallback = some data ∧ data.Covers next := by
  obtain ⟨found, taken, onward⟩ := Search.bind_eq_ok_iff.mp selected
  split at onward
  · rename_i data
    exact .inr ⟨data, rfl, select_covers onward⟩
  · rw [← Except.ok.inj onward]
    exact .inl (select_covers taken)

theorem obstacle_of_resolve (stopped : resolve v path fallback = .error f) :
    ∃ text, path = .text text ∧ (Obstacle v (segments text) f ∨
      ∃ data, fallback = some data ∧ Obstacle data (segments text) f) := by
  rcases Search.bind_eq_error_iff.mp stopped with here | ⟨found, taken, onward⟩
  · obtain ⟨text, isText, met⟩ := obstacle_of_select here
    exact ⟨text, isText, .inl met⟩
  · split at onward
    · rename_i data
      obtain ⟨text, isText, met⟩ := obstacle_of_select onward
      exact ⟨text, isText, .inr ⟨data, rfl, met⟩⟩
    · simp [pure, Except.pure] at onward

theorem resolve_of_isPresent (stopped : isPresent v path fallback = .error f) :
    resolve v path fallback = .error f :=
  Search.eq_error_of_bind_pure stopped

end Path

end Criteria
