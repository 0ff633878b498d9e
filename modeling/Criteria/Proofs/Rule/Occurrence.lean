import Criteria.Proofs.Rule.Outcome

set_option autoImplicit false
set_option relaxedAutoImplicit false

/-!
# What happens in an evaluation

Which events an evaluation can leave under its options: names are passed over where unknown rules are
allowed and rejected where they are not, and the limit that rules can exceed is that of the options.
-/

namespace Criteria

/-- What can happen in an evaluation under options. -/
inductive Event.Arises (o : Options) : Event → Prop
  | judged (j : Judgement) : Arises o (.judged j)
  | malformed (path : String) (raw : Value) : Arises o (.malformed path raw)
  | ignored (name : Value) (path : String) : o.strict = false → Arises o (.ignored name path)
  | rejected (name : Value) (path : String) : o.strict = true → Arises o (.rejected name path)
  | tooDeep (path : String) : Arises o (.tooDeep o.maxDepth path)
  | said (line : LogLine) : Arises o (.said line)

namespace Run

variable {α β : Type} {P : Event → Prop}

theorem mem_events_bind {r : Run α} {next : α → Run β} {e : Event}
    (member : e ∈ (r >>= next).events) :
    e ∈ r.events ∨ ∃ a, r.outcome = .ok a ∧ e ∈ (next a).events := by
  change e ∈ (r.andThen next).events at member
  rw [events_andThen] at member
  rcases List.mem_append.mp member with first | later
  · exact .inl first
  · cases outcome : r.outcome with
    | error _ => simp [outcome] at later
    | ok a =>
      simp only [outcome] at later
      exact .inr ⟨a, rfl, later⟩

theorem forall_events_bind {r : Run α} {next : α → Run β} (first : ∀ e ∈ r.events, P e)
    (later : ∀ a, ∀ e ∈ (next a).events, P e) : ∀ e ∈ (r >>= next).events, P e := by
  intro e member
  rcases mem_events_bind member with here | ⟨a, _, there⟩
  · exact first e here
  · exact later a e there

@[simp] theorem events_pure (a : α) : (pure a : Run α).events = [] := rfl

@[simp] theorem events_answer (a : α) : (answer a).events = [] := rfl

@[simp] theorem events_ofExcept (x : Except Fault α) : (ofExcept x).events = [] := by
  cases x <;> rfl

@[simp] theorem events_event (e : Event) : (event e).events = [e] := rfl

end Run

namespace Evaluation

variable {table : PredicateTable} {o : Options} {nested : Nested} {depth : Nat} {mode : Mode}
  {path : String} {v : Value}

theorem forall_events_judgeEntries {P : Event → Prop} {judge : Value × Value → Run (Option Bool)}
    {entries : List (Value × Value)} (each : ∀ entry ∈ entries, ∀ e ∈ (judge entry).events, P e) :
    ∀ e ∈ (judgeEntries mode judge entries).events, P e := by
  induction entries with
  | nil => simp [judgeEntries]
  | cons entry rest ih =>
    have later := ih fun e member => each e (List.mem_cons_of_mem entry member)
    refine Run.forall_events_bind (each entry List.mem_cons_self) fun result => ?_
    cases result with
    | none => exact later
    | some b =>
      by_cases settles : (b == (mode == .any)) = true
      · simp [settles]
      · simp only [settles]
        exact later

theorem forall_events_judgeProperties {P : Event → Prop} {entries : List (Value × Value)}
    (inside : ∀ found node mode path, ∀ e ∈ (nested found node mode path).events, P e) :
    ∀ e ∈ (judgeProperties o nested v path entries).events, P e := by
  induction entries with
  | nil => simp [judgeProperties]
  | cons entry rest ih =>
    refine Run.forall_events_bind (by simp) fun found => ?_
    refine Run.forall_events_bind (inside found _ .default _) fun result => ?_
    cases result with
    | true => exact ih
    | false => simp

theorem forall_events_judgeRule {P : Event → Prop} {name : RuleName} {argument : Value}
    (inside : ∀ found node mode path, ∀ e ∈ (nested found node mode path).events, P e) :
    ∀ e ∈ (judgeRule o nested mode v name argument path).events, P e := by
  cases name with
  | any => exact inside v _ .any path
  | all => exact inside v _ .all path
  | negation =>
    simp only [judgeRule, judgeNegation]
    split
    · simp
    · exact Run.forall_events_bind (inside v _ .default path) fun result => by simp
  | properties =>
    simp only [judgeRule]
    split
    · exact forall_events_judgeProperties inside
    · simp
  | _ => simp [judgeRule]

theorem arises_judgeEntry {entry : Value × Value}
    (inside : ∀ found node mode path, ∀ e ∈ (nested found node mode path).events, e.Arises o) :
    ∀ e ∈ (judgeEntry o nested depth mode path v entry).events, e.Arises o := by
  obtain ⟨key, argument⟩ := entry
  cases named : RuleName.ofValue? key with
  | none =>
    rw [judgeEntry_of_unknown named]
    split
    · rename_i strict
      refine Run.forall_events_bind ?_ fun _ => Run.forall_events_bind ?_ fun _ => by simp
      · simpa using Event.Arises.rejected key _ strict
      · simpa using Event.Arises.judged _
    · rename_i lenient
      refine Run.forall_events_bind ?_ fun _ => by simp
      simpa using Event.Arises.ignored key _ (by simpa using lenient)
  | some name =>
    rw [judgeEntry_of_rule named]
    refine Run.forall_events_bind (forall_events_judgeRule inside) fun result => ?_
    refine Run.forall_events_bind ?_ fun _ => by simp
    simpa using Event.Arises.judged _

theorem arises_judge {left : Nat} {node : RuleNode} :
    ∀ e ∈ (judge table o left v node mode path).events, e.Arises o := by
  induction left generalizing v node mode path with
  | zero =>
    refine Run.forall_events_bind ?_ fun _ => by simp [Run.stop]
    simpa using Event.Arises.tooDeep path
  | succ left ih =>
    simp only [judge_succ, judgeNode]
    cases node with
    | tree entries =>
      exact forall_events_judgeEntries fun entry _ =>
        arises_judgeEntry fun found node mode path => ih
    | predicate f =>
      refine Run.forall_events_bind ?_ fun result => Run.forall_events_bind ?_ fun _ => by simp
      · intro e member
        obtain ⟨line, _, rfl⟩ := List.mem_map.mp member
        exact .said line
      · simpa using Event.Arises.judged _
    | malformed raw =>
      refine Run.forall_events_bind ?_ fun _ => by simp
      simpa using Event.Arises.malformed path raw

end Evaluation

end Criteria
