import Criteria.Proofs.Path.Segments
import Criteria.Proofs.Value.Path

set_option autoImplicit false
set_option relaxedAutoImplicit false

/-!
# What segments select

A segment selects at most one thing: what is under a key, at an index, an item that is the segment itself, or
an attribute. An index that is there comes before an item of the same text. Where all attributes can be read
only one thing stops a step: an index of a sequence that is written with more digits than can be read.
-/

namespace Criteria

namespace Value

variable {entries : List (Value × Value)} {key : String} {v w : Value}

/-- Under a key stands the value of the first entry that has the key. -/
def Under (entries : List (Value × Value)) (key : String) (w : Value) : Prop :=
  ∃ before after, entries = before ++ (.text key, w) :: after ∧ ∀ e ∈ before, e.1 ≠ .text key

theorem lookup_cons_of_ne {e : Value × Value} (other : e.1 ≠ .text key) :
    lookup key (e :: entries) = lookup key entries := by
  obtain ⟨k, held⟩ := e
  cases k with
  | text s =>
    have differ : s ≠ key := fun same => other (congrArg Value.text same)
    simp [lookup, differ]
  | _ => rfl

theorem lookup_eq_some_iff : lookup key entries = some w ↔ Under entries key w := by
  constructor
  · intro found
    induction entries with
    | nil => simp [lookup] at found
    | cons e rest ih =>
      by_cases here : e.1 = .text key
      · obtain ⟨k, held⟩ := e
        subst here
        have same : held = w := by simpa [lookup] using found
        exact ⟨[], rest, by rw [same]; rfl, by simp⟩
      · rw [lookup_cons_of_ne here] at found
        obtain ⟨before, after, rfl, others⟩ := ih found
        exact ⟨e :: before, after, rfl, List.forall_mem_cons.mpr ⟨here, others⟩⟩
  · rintro ⟨before, after, rfl, others⟩
    induction before with
    | nil => simp [lookup]
    | cons e before ih =>
      rw [List.forall_mem_cons] at others
      rw [List.cons_append, lookup_cons_of_ne others.1]
      exact ih others.2

def Throughout (P : Value → Prop) (v : Value) : Prop := ∀ w, v.Holds w → P w

theorem throughout_iff {P : Value → Prop} :
    v.Throughout P ↔ P v ∧ ∀ part ∈ v.parts, part.Throughout P := by
  constructor
  · intro all
    exact ⟨all v (.self v), fun part member w held => all w (.part member held)⟩
  · rintro ⟨here, parts⟩ w held
    rcases holds_iff.mp held with rfl | ⟨part, member, inside⟩
    · exact here
    · exact parts part member w inside

/-- In no object within a value does an attribute fail to be read. -/
def Readable : Value → Prop :=
  Throughout fun w => ∀ attributes broken, w = .object attributes broken → broken = []

theorem Readable.of_parts (other : ∀ attributes broken, v ≠ .object attributes broken)
    (parts : ∀ part ∈ v.parts, part.Readable) : v.Readable :=
  throughout_iff.mpr ⟨fun attributes broken same => absurd same (other attributes broken), parts⟩

theorem Readable.of_covers {next : Value} (readable : v.Readable) (covered : v.Covers next) :
    next.Readable := by
  rintro w held attributes broken rfl
  exact readable _ (covered _ (.object attributes broken) held) attributes broken rfl

theorem untie_of_items {items : List Value} (sequence : v.items? = some items) :
    ∃ form, v.untie = .array form items := by
  unfold items? at sequence
  split at sequence
  · rename_i form items' untied
    exact ⟨form, by rw [untied, Option.some.inj sequence]⟩
  · simp at sequence

theorem untie_of_entries (mapping : v.entries? = some entries) : ∃ form, v.untie = .mapping form entries := by
  unfold entries? at mapping
  split at mapping
  · rename_i form entries' untied
    exact ⟨form, by rw [untied, Option.some.inj mapping]⟩
  · simp at mapping

end Value

namespace Path

variable {v w next path : Value} {segment : String} {f : Fault} {i : Nat} {items : List Value}

/-- A segment writes an index that can be read. -/
structure Writes (segment : String) (i : Nat) : Prop where
  digits : isIndex segment = true
  short : segment.toList.length ≤ digitLimit
  value : Decimal.digitsValue segment.toList = i

/-- What a segment selects from a value. -/
inductive Selects (v : Value) (segment : String) : Value → Prop
  | key {entries : List (Value × Value)} {w : Value} :
      v.entries? = some entries → Value.Under entries segment w → Selects v segment w
  | index {items : List Value} {i : Nat} {w : Value} :
      v.items? = some items → Writes segment i → items[i]? = some w → Selects v segment w
  | item {items : List Value} :
      v.items? = some items → .text segment ∈ items →
      (isIndex segment = true → ∃ i, Writes segment i ∧ items.length ≤ i) → Selects v segment (.text segment)
  | publicAttribute {attributes : List (String × Value)} {broken : List String} {w : Value} :
      v = .object attributes broken → segment.toList.head? ≠ some '_' → segment ∉ broken →
      attributes.lookup segment = some w → Selects v segment w
  | part {re im : BinaryFloat} {w : Value} :
      v = .complex re im → (complexAttributes re im).lookup segment = some w → Selects v segment w

/-- A segment asks a sequence for an index that has more digits than can be read. -/
def OverlongAt (v : Value) (segment : String) : Prop :=
  v.items?.isSome = true ∧ isIndex segment = true ∧ digitLimit < segment.toList.length

theorem index_of_writes (writes : Writes segment i) : index segment = .ok i := by
  simp only [index, Nat.not_lt.mpr writes.short, if_false, writes.value]

theorem writes_of_index (digits : isIndex segment = true) (read : index segment = .ok i) :
    Writes segment i := by
  simp only [index] at read
  split at read
  · simp at read
  · rename_i short
    exact ⟨digits, Nat.not_lt.mp short, Except.ok.inj read⟩

theorem index_eq_error_iff :
    index segment = .error f ↔
      digitLimit < segment.toList.length ∧ f = .tooManyDigits segment.toList.length := by
  simp only [index]
  split
  · rename_i long
    simp [long, eq_comm]
  · rename_i short
    simp [short]

theorem itemNamed_of_mem (member : .text segment ∈ items) : itemNamed items segment = .text segment := by
  have there : items.any (fun item => item.text? == some segment) = true :=
    List.any_eq_true.mpr ⟨_, member, by simp [Value.text?]⟩
  rw [itemNamed, if_pos there]

theorem mem_of_itemNamed (named : itemNamed items segment ≠ .undefined) :
    .text segment ∈ items ∧ itemNamed items segment = .text segment := by
  unfold itemNamed at named ⊢
  split at named
  · rename_i there
    obtain ⟨item, member, same⟩ := List.any_eq_true.mp there
    have text : item = .text segment := by
      cases item <;> simp_all [Value.text?]
    exact ⟨text ▸ member, if_pos there⟩
  · exact absurd rfl named

theorem step_of_items (sequence : v.items? = some items) (segment : String) :
    step v segment =
      if isIndex segment then index segment >>= fun i => .ok (items[i]?.getD (itemNamed items segment))
      else .ok (itemNamed items segment) := by
  obtain ⟨form, untied⟩ := Value.untie_of_items sequence
  simp only [step, untied]
  split
  · refine bind_congr fun i => ?_
    cases items[i]? <;> rfl
  · rfl

theorem step_of_entries {entries : List (Value × Value)} (mapping : v.entries? = some entries)
    (segment : String) : step v segment = .ok ((Value.lookup segment entries).getD .undefined) := by
  obtain ⟨form, untied⟩ := Value.untie_of_entries mapping
  simp only [step, untied]

theorem readAttribute_eq_ok {attributes : List (String × Value)} {broken : List String}
    (isPublic : segment.toList.head? ≠ some '_') (whole : segment ∉ broken) :
    readAttribute attributes broken segment = .ok ((attributes.lookup segment).getD .undefined) := by
  simp [readAttribute, isPublic, whole]

theorem public_of_complexAttributes {re im : BinaryFloat}
    (found : (complexAttributes re im).lookup segment = some w) : segment.toList.head? ≠ some '_' := by
  have member := mem_of_lookup_attribute found
  simp only [complexAttributes, List.mem_cons, List.not_mem_nil, or_false, Prod.mk.injEq] at member
  rcases member with ⟨rfl, _⟩ | ⟨rfl, _⟩ | ⟨rfl, _⟩ <;> decide

theorem step_of_selects (selects : Selects v segment w) : step v segment = .ok w := by
  cases selects with
  | key mapping under => rw [step_of_entries mapping, Value.lookup_eq_some_iff.mpr under, Option.getD_some]
  | index sequence writes found =>
    simp [step_of_items sequence, writes.digits, index_of_writes writes, found, bind, Except.bind]
  | @item items sequence member beyond =>
    rw [step_of_items sequence, itemNamed_of_mem member]
    split
    · rename_i digits
      obtain ⟨i, writes, past⟩ := beyond digits
      simp [index_of_writes writes, List.getElem?_eq_none past, bind, Except.bind]
    · rfl
  | publicAttribute object isPublic whole found =>
    subst object
    simp only [step, Value.untie, readAttribute_eq_ok isPublic whole, found, Option.getD_some]
  | part complex found =>
    subst complex
    have isPublic := public_of_complexAttributes found
    simp only [step, Value.untie]
    rw [readAttribute_eq_ok isPublic (by simp), found, Option.getD_some]

theorem lookup_of_readAttribute {attributes : List (String × Value)} {broken : List String}
    (read : readAttribute attributes broken segment = .ok w) (defined : w ≠ .undefined) :
    segment.toList.head? ≠ some '_' ∧ segment ∉ broken ∧ attributes.lookup segment = some w := by
  unfold readAttribute at read
  split at read
  · exact absurd (Except.ok.inj read).symm defined
  · rename_i isPublic
    split at read
    · simp at read
    · rename_i whole
      refine ⟨by simpa using isPublic, by simpa using whole, ?_⟩
      cases found : attributes.lookup segment with
      | none => exact absurd (by simpa [found] using read.symm) defined
      | some held => simpa [found] using read

theorem selects_of_step_entries {entries : List (Value × Value)} (mapping : v.entries? = some entries)
    (taken : step v segment = .ok w) (defined : w ≠ .undefined) : Selects v segment w := by
  rw [step_of_entries mapping] at taken
  refine .key mapping (Value.lookup_eq_some_iff.mp ?_)
  cases found : Value.lookup segment entries with
  | none => exact absurd (by simpa [found] using taken.symm) defined
  | some held => simpa [found] using taken

theorem selects_of_step_items (sequence : v.items? = some items) (taken : step v segment = .ok w)
    (defined : w ≠ .undefined) : Selects v segment w := by
  rw [step_of_items sequence] at taken
  split at taken
  · rename_i digits
    obtain ⟨i, read, found⟩ := Search.bind_eq_ok_iff.mp taken
    have writes := writes_of_index digits read
    cases position : items[i]? with
    | some held =>
      have same : held = w := by simpa [position] using found
      exact .index sequence writes (same ▸ position)
    | none =>
      have named : itemNamed items segment = w := by simpa [position] using found
      obtain ⟨member, text⟩ := mem_of_itemNamed (named ▸ defined)
      rw [← named, text]
      exact .item sequence member fun _ => ⟨i, writes, List.getElem?_eq_none_iff.mp position⟩
  · rename_i digits
    have named : itemNamed items segment = w := Except.ok.inj taken
    obtain ⟨member, text⟩ := mem_of_itemNamed (named ▸ defined)
    rw [← named, text]
    exact .item sequence member fun isDigits => absurd isDigits digits

theorem selects_of_step (taken : step v segment = .ok w) (defined : w ≠ .undefined) :
    Selects v segment w := by
  cases mapping : v.entries? with
  | some entries => exact selects_of_step_entries mapping taken defined
  | none =>
    cases sequence : v.items? with
    | some items => exact selects_of_step_items sequence taken defined
    | none =>
      unfold step at taken
      split at taken
      · rename_i untied
        simp [Value.entries?, untied] at mapping
      · rename_i untied
        simp [Value.items?, untied] at sequence
      · rename_i attributes broken untied
        obtain ⟨isPublic, whole, found⟩ := lookup_of_readAttribute taken defined
        exact .publicAttribute (Value.eq_of_untie untied (by simp) (by simp) (by simp)) isPublic whole found
      · rename_i re im untied
        obtain ⟨_, _, found⟩ := lookup_of_readAttribute taken defined
        exact .part (Value.eq_of_untie untied (by simp) (by simp) (by simp)) found
      · exact absurd (Except.ok.inj taken).symm defined

theorem step_eq_error_iff (readable : v.Readable) :
    step v segment = .error f ↔ OverlongAt v segment ∧ f = .tooManyDigits segment.toList.length := by
  constructor
  · intro stopped
    cases mapping : v.entries? with
    | some entries => simp [step_of_entries mapping] at stopped
    | none =>
      cases sequence : v.items? with
      | some items =>
        rw [step_of_items sequence] at stopped
        split at stopped
        · rename_i digits
          rcases Search.bind_eq_error_iff.mp stopped with failed | ⟨i, _, answered⟩
          · obtain ⟨long, tooMany⟩ := index_eq_error_iff.mp failed
            exact ⟨⟨by simp [sequence], digits, long⟩, tooMany⟩
          · simp at answered
        · simp at stopped
      | none =>
        unfold step at stopped
        split at stopped
        · simp at stopped
        · rename_i untied
          simp [Value.items?, untied] at sequence
        · rename_i attributes broken untied
          have member : segment ∈ broken := (broken_of_readAttribute stopped).1
          have object : v = .object attributes broken :=
            Value.eq_of_untie untied (by simp) (by simp) (by simp)
          have whole : broken = [] := readable v (.self v) attributes broken object
          simp [whole] at member
        · have member := (broken_of_readAttribute stopped).1
          simp at member
        · simp at stopped
  · rintro ⟨⟨isSequence, digits, long⟩, rfl⟩
    obtain ⟨items, sequence⟩ := Option.isSome_iff_exists.mp isSequence
    have failed : index segment = .error (.tooManyDigits segment.toList.length) :=
      index_eq_error_iff.mpr ⟨long, rfl⟩
    simp [step_of_items sequence, digits, failed, bind, Except.bind]

/-- Segments lead from a value to another when each selects what the next one is applied to. -/
inductive Leads : Value → List String → Value → Prop
  | nil (v : Value) : Leads v [] v
  | cons {v next w : Value} {segment : String} {rest : List String} :
      Selects v segment next → Leads next rest w → Leads v (segment :: rest) w

variable {segments : List String}

theorem walk_of_leads (leads : Leads v segments w) : walk v segments = .ok w := by
  induction leads with
  | nil v => rfl
  | cons selects _ ih =>
    rw [walk_cons, step_of_selects selects]
    exact ih

theorem leads_of_walk (followed : walk v segments = .ok w) (defined : w ≠ .undefined) :
    Leads v segments w := by
  induction segments generalizing v with
  | nil =>
    rw [← Except.ok.inj followed]
    exact .nil v
  | cons segment rest ih =>
    rw [walk_cons] at followed
    obtain ⟨next, taken, onward⟩ := Search.bind_eq_ok_iff.mp followed
    have reached : next ≠ .undefined := by
      rintro rfl
      rw [walk_undefined] at onward
      exact defined (Except.ok.inj onward).symm
    exact .cons (selects_of_step taken reached) (ih onward)

end Path

end Criteria
