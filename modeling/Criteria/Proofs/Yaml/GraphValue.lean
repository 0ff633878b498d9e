import Criteria.Proofs.Value.WellFormed
import Criteria.Yaml.Loading

set_option autoImplicit false
set_option relaxedAutoImplicit false

/-!
# Values read from documents

While the value of a graph is read, everything kept is a part: an atom, or a container of links or atoms
whose keys are apart. So the value of a document is well-formed, also where the document refers to a
container from within.
-/

namespace Criteria.Yaml

/-- What has been read so far are parts, and there is one. -/
structure Builder.Sound (b : Builder) : Prop where
  some_part : 0 < b.parts.size
  each : ∀ part, some part ∈ b.parts → part.IsPart

namespace Building

variable {α β : Type}

/-- A step keeps what is read sound, and its answers are of a kind. -/
def Keeps (Answer : α → Prop) (act : Building α) : Prop :=
  ∀ b a b', act.run b = .ok (a, b') → b.Sound → b'.Sound ∧ Answer a

section Steps

variable {Answer : α → Prop} {Later : β → Prop} {act : Building α} {next : α → Building β}

theorem keeps_pure {a : α} (answer : Answer a) : Keeps Answer (pure a) := by
  rintro b a b' ⟨⟩ sound
  exact ⟨sound, answer⟩

theorem keeps_throw (f : Fault) : Keeps Answer (throw f) := by
  rintro b a b' ⟨⟩

theorem Keeps.bind (first : Keeps Answer act) (later : ∀ a, Answer a → Keeps Later (next a)) :
    Keeps Later (act >>= next) := by
  intro b a b' ran sound
  rw [StateT.run_bind] at ran
  obtain ⟨⟨answer, between⟩, here, there⟩ := Search.bind_eq_ok_iff.mp ran
  obtain ⟨sound, kind⟩ := first b answer between here sound
  exact later answer kind between a b' there sound

theorem keeps_lift {x : Except Fault α} : Keeps (fun a => x = .ok a) (liftM x) := by
  intro b a b' ran sound
  cases x with
  | error f => cases ran
  | ok answer =>
    cases ran
    exact ⟨sound, rfl⟩

theorem keeps_get : Keeps Builder.Sound get := by
  rintro b a b' ⟨⟩ sound
  exact ⟨sound, sound⟩

theorem keeps_modify {f : Builder → Builder} (sound : ∀ b, b.Sound → (f b).Sound) :
    Keeps (fun _ => True) (modify f) := by
  rintro b a b' ⟨⟩ before
  exact ⟨sound b before, trivial⟩

theorem keeps_modify_of_parts {f : Builder → Builder} (same : ∀ b, (f b).parts = b.parts) :
    Keeps (fun _ => True) (modify f) :=
  keeps_modify fun b sound => ⟨by simpa [same] using sound.some_part, by simpa [same] using sound.each⟩

theorem keeps_forM {items : List β} {each : β → Building Unit}
    (kept : ∀ item ∈ items, Keeps (fun _ => True) (each item)) : Keeps (fun _ => True) (items.forM each) := by
  induction items with
  | nil => exact keeps_pure trivial
  | cons item rest ih =>
    have first := kept item List.mem_cons_self
    exact first.bind fun _ _ => ih fun item later => kept item (List.mem_cons_of_mem _ later)

theorem keeps_mapM {items : List β} {each : β → Building α} (kept : ∀ item, Keeps Answer (each item)) :
    Keeps (fun answers => ∀ a ∈ answers, Answer a) (items.mapM each) := by
  induction items with
  | nil => exact keeps_pure (by simp)
  | cons item rest ih =>
    rw [List.mapM_cons]
    exact (kept item).bind fun a here => ih.bind fun answers there =>
      keeps_pure (List.forall_mem_cons.mpr ⟨here, there⟩)

end Steps

section Nodes

variable {place : Nat}

theorem keeps_node : Keeps (fun _ => True) (node place) :=
  keeps_get.bind fun _ _ => keeps_pure trivial

theorem keeps_setNode {n : Node} : Keeps (fun _ => True) (setNode place n) :=
  keeps_modify_of_parts fun _ => rfl

theorem keeps_entries : Keeps (fun _ => True) (entries place) := by
  refine keeps_node.bind fun n _ => ?_
  cases n with
  | mapping tag entries => exact keeps_pure trivial
  | _ => exact keeps_throw _

theorem keeps_setEntries {listed : List (Nat × Nat)} : Keeps (fun _ => True) (setEntries place listed) :=
  keeps_node.bind fun _ _ => keeps_setNode

theorem keeps_scalarText {fuel : Nat} : Keeps (fun _ => True) (scalarText fuel place) := by
  induction fuel generalizing place with
  | zero => exact keeps_throw _
  | succ fuel ih =>
    refine keeps_node.bind fun n _ => ?_
    cases n with
    | scalar tag text => exact keeps_pure trivial
    | sequence tag items => exact keeps_throw _
    | mapping tag entries =>
      refine keeps_get.bind fun b _ => ?_
      dsimp only
      split
      · exact ih
      · exact keeps_throw _

theorem keeps_takeMerge : Keeps (fun _ => True) (takeMerge place) := by
  refine keeps_entries.bind fun all _ => keeps_get.bind fun b _ => ?_
  dsimp only
  split
  · exact keeps_setEntries.bind fun _ _ => keeps_pure trivial
  · exact keeps_pure trivial

theorem keeps_keepStandIn : Keeps (fun _ => True) (keepStandIn place) := by
  refine keeps_node.bind fun n _ => ?_
  split
  · exact keeps_setNode
  · exact keeps_setNode
  · exact keeps_setNode
  · exact keeps_pure trivial

theorem keeps_mergeSources : Keeps (fun _ => True) (mergeSources place) := by
  refine keeps_node.bind fun n _ => ?_
  cases n with
  | mapping tag entries => exact keeps_pure trivial
  | sequence tag items => exact keeps_pure trivial
  | scalar tag text => exact keeps_throw _

theorem keeps_flatten {fuel : Nat} : Keeps (fun _ => True) (flatten fuel place) := by
  induction fuel generalizing place with
  | zero => exact keeps_throw _
  | succ fuel ih =>
    refine keeps_takeMerge.bind fun merged _ => ?_
    cases merged with
    | some source =>
      refine keeps_mergeSources.bind fun sources _ => (keeps_mapM fun _ => ih).bind fun _ _ => ?_
      exact ih.bind fun _ _ => keeps_setEntries.bind fun _ _ => keeps_entries
    | none =>
      refine keeps_entries.bind fun listed _ => ?_
      exact (keeps_forM fun _ _ => keeps_keepStandIn).bind fun _ _ => keeps_entries

theorem keeps_flattened : Keeps (fun _ => True) (flattened place) :=
  keeps_get.bind fun _ _ => keeps_flatten

end Nodes

section Parts

variable {place : Nat}

theorem keeps_part? : Keeps (fun part => ∀ p, part = some p → p.IsPart) (part? place) := by
  refine keeps_get.bind fun b sound => keeps_pure fun p held => ?_
  exact sound.each p (Array.mem_of_getElem? (Option.join_eq_some_iff.mp held))

theorem keeps_setPart {part : Value} (isPart : part.IsPart) : Keeps (fun _ => True) (setPart place part) := by
  refine keeps_modify fun b sound => ⟨by simpa using sound.some_part, fun p member => ?_⟩
  rcases Array.mem_or_eq_of_mem_setIfInBounds member with old | new
  · exact sound.each p old
  · exact Option.some.inj new ▸ isPart

theorem keeps_addPart {part : Value} (isPart : part.IsPart) : Keeps (fun _ => True) (addPart part) := by
  refine keeps_get.bind fun b _ => (keeps_modify fun b sound => ⟨?_, fun p member => ?_⟩).bind fun _ _ =>
    keeps_pure trivial
  · simp
  · rcases Array.mem_push.mp member with old | new
    · exact sound.each p old
    · exact Option.some.inj new ▸ isPart

theorem isAtom_of_momentOf {part : Nat → List Char} {v : Value} (answer : Scalar.momentOf part = .ok v) :
    v.isAtom = true := by
  dsimp only [Scalar.momentOf] at answer
  split at answer
  · obtain ⟨day, _, rfl⟩ := Search.eq_ok_of_map answer
    rfl
  · obtain ⟨offset, _, later⟩ := Search.bind_eq_ok_iff.mp answer
    obtain ⟨day, _, later⟩ := Search.bind_eq_ok_iff.mp later
    obtain ⟨time, _, later⟩ := Search.bind_eq_ok_iff.mp later
    exact Except.ok.inj later ▸ rfl

theorem isAtom_of_reader {tag : Tag} {read : String → Except Fault Value} (reads : tag.reader? = some read)
    {text : String} {v : Value} (answer : read text = .ok v) : v.isAtom = true := by
  cases tag with
  | null | text =>
    obtain rfl := Option.some.inj reads
    exact Except.ok.inj answer ▸ rfl
  | bool =>
    obtain rfl := Option.some.inj reads
    dsimp only [Scalar.bool] at answer
    split at answer
    · exact Except.ok.inj answer ▸ rfl
    · simp at answer
  | int =>
    obtain rfl := Option.some.inj reads
    obtain ⟨⟨negative, rest⟩, _, later⟩ := Search.bind_eq_ok_iff.mp answer
    obtain ⟨n, _, later⟩ := Search.bind_eq_ok_iff.mp later
    exact Except.ok.inj later ▸ rfl
  | float =>
    obtain rfl := Option.some.inj reads
    obtain ⟨⟨negative, rest⟩, _, later⟩ := Search.bind_eq_ok_iff.mp answer
    obtain ⟨x, _, later⟩ := Search.bind_eq_ok_iff.mp later
    exact Except.ok.inj later ▸ rfl
  | binary =>
    obtain rfl := Option.some.inj reads
    unfold Scalar.binary at answer
    split at answer
    · exact Except.ok.inj answer ▸ rfl
    · simp at answer
  | timestamp =>
    obtain rfl := Option.some.inj reads
    unfold Scalar.moment at answer
    split at answer
    · simp at answer
    · exact isAtom_of_momentOf (Search.eq_ok_of_mapError answer)
  | _ => simp [Tag.reader?] at reads

theorem keeps_meet : Keeps (fun _ => True) (meet place) := by
  refine keeps_part?.bind fun part _ => ?_
  split
  · exact keeps_pure trivial
  · refine keeps_node.bind fun n _ => ?_
    have waits : Keeps (fun _ => True) (do
        setPart place (.list [])
        modify fun b => { b with waiting := place :: b.waiting }) :=
      (keeps_setPart (by simp [Value.IsPart, Value.list])).bind fun _ _ => keeps_modify_of_parts fun _ => rfl
    split
    · exact waits
    · exact waits
    · exact waits
    · exact waits
    · exact waits
    · cases reads : n.tag.reader? with
      | none => exact keeps_throw _
      | some read =>
        refine keeps_get.bind fun b _ => keeps_scalarText.bind fun text _ => ?_
        have atom : Keeps (fun _ => True) (do setPart place (← read text)) :=
          keeps_lift.bind fun v answer => keeps_setPart (.of_isAtom (isAtom_of_reader reads answer))
        split
        · exact keeps_throw _
        · exact atom

theorem keeps_key : Keeps (fun k => k.isAtom = true) (key place) := by
  refine keeps_meet.bind fun _ _ => keeps_part?.bind fun part _ => ?_
  cases part with
  | none => exact keeps_throw _
  | some part =>
    dsimp only
    split
    · exact keeps_pure ‹_›
    · exact keeps_throw _

/-- Entries with atoms for keys, no two alike, and links for values. -/
structure Linked (read : List (Value × Value)) : Prop where
  keys : Value.KeysApart read
  atoms : ∀ e ∈ read, e.1.isAtom = true
  links : ∀ e ∈ read, ∃ place, e.2 = .link place

theorem sameKey_of_same {k key : Value} (same : Value.same k key = true) : sameKey k key = true := by
  unfold sameKey
  split
  · rfl
  · exact same

theorem Linked.enterBy {read : List (Value × Value)} (linked : Linked read) {key : Value}
    (atom : key.isAtom = true) (place : Nat) : Linked (Value.enterBy sameKey read key (.link place)) := by
  refine ⟨?_, fun e member => ?_, fun e member => ?_⟩
  · exact linked.keys.enterBy (Value.isUnordered_of_isAtom atom) fun _ => sameKey_of_same
  · rcases Value.key_of_mem_enterBy member with new | ⟨e', old, same⟩
    · exact new ▸ atom
    · exact same ▸ linked.atoms e' old
  · rcases Value.mem_enterBy member with old | ⟨new, _⟩
    · exact linked.links e old
    · exact ⟨place, new⟩

theorem keeps_entriesFrom {read : List (Value × Value)} (linked : Linked read) {listed : List (Nat × Nat)} :
    Keeps Linked (entriesFrom read listed) := by
  induction listed generalizing read with
  | nil => exact keeps_pure linked
  | cons entry rest ih =>
    exact keeps_key.bind fun key atom => keeps_meet.bind fun _ _ => ih (linked.enterBy atom entry.2)

theorem keeps_pair : Keeps (fun v => ∃ place, v = .link place) (pair place) := by
  refine keeps_node.bind fun n _ => ?_
  split
  · refine keeps_meet.bind fun _ _ => keeps_meet.bind fun _ _ => ?_
    exact (keeps_addPart (by simp [Value.IsPart])).bind fun added _ => keeps_pure ⟨added, rfl⟩
  · exact keeps_throw _

theorem keeps_fill : Keeps (fun _ => True) (fill place) := by
  have empty : Linked [] := ⟨⟨List.Pairwise.nil, by simp⟩, by simp, by simp⟩
  have pairs {items : List Nat} : Keeps (fun _ => True) (do setPart place (.list (← items.mapM pair))) :=
    (keeps_mapM fun _ => keeps_pair).bind fun _ links => keeps_setPart links
  refine keeps_node.bind fun n _ => ?_
  split
  · exact (keeps_forM fun _ _ => keeps_meet).bind fun _ _ => keeps_setPart (by simp [Value.IsPart, Value.list])
  · exact keeps_flattened.bind fun _ _ => (keeps_entriesFrom empty).bind fun _ linked =>
      keeps_setPart ⟨linked.keys, linked.links⟩
  · refine keeps_flattened.bind fun _ _ => (keeps_entriesFrom empty).bind fun read linked => keeps_setPart ?_
    exact List.forall_mem_map.mpr linked.atoms
  · exact pairs
  · exact pairs
  · exact keeps_throw _

theorem keeps_levels {fuel : Nat} : Keeps (fun _ => True) (levels fuel) := by
  induction fuel with
  | zero => exact keeps_throw _
  | succ fuel ih =>
    refine keeps_get.bind fun b _ => ?_
    dsimp only
    split
    · exact keeps_pure trivial
    · have cleared : Keeps (fun _ => True) (modify fun b => { b with waiting := [] }) :=
        keeps_modify_of_parts fun _ => rfl
      exact cleared.bind fun _ _ => (keeps_forM fun _ _ => keeps_fill).bind fun _ _ => ih

end Parts

end Building

theorem Graph.wellFormed_value {g : Graph} {v : Value} (read : g.value = .ok v) : v.WellFormed := by
  obtain ⟨⟨_, b⟩, built, same⟩ := Search.bind_eq_ok_iff.mp read
  have start : Builder.Sound ⟨g.nodes, g.nodes.map fun _ => none, []⟩ := by
    have some_node : 0 < g.nodes.size := Nat.lt_of_le_of_lt (Nat.zero_le _) g.root_lt
    exact ⟨by simpa using some_node, by simp⟩
  obtain ⟨sound, _⟩ := (Building.keeps_meet.bind fun _ _ => Building.keeps_levels) _ _ _ built start
  obtain rfl := Except.ok.inj same
  refine Value.wellFormed_ofParts (fun place => ?_) (by simpa using sound.some_part)
  rw [Array.getD_eq_getD_getElem?, Array.getElem?_map]
  cases found : b.parts[place]? with
  | none => exact .of_isAtom rfl
  | some part =>
    cases part with
    | none => exact .of_isAtom rfl
    | some part => exact sound.each part (Array.mem_of_getElem? found)

/-- The value of a document is well-formed. -/
theorem wellFormed_read {text : String} {v : Value} (loaded : read text = .ok v) : v.WellFormed := by
  unfold read at loaded
  split at loaded
  dsimp only at loaded
  split at loaded
  · obtain ⟨graph, _, valued⟩ := Search.bind_eq_ok_iff.mp loaded
    cases graph with
    | none => exact Except.ok.inj valued ▸ Value.wellFormed_of_isAtom rfl
    | some graph => exact Graph.wellFormed_value valued
  · simp [throw, throwThe, MonadExceptOf.throw, bind, Except.bind] at loaded

end Criteria.Yaml
