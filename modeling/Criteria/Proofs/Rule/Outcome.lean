import Criteria.Proofs.Rule.Position
import Criteria.Proofs.Search
import Criteria.Rule.Report

set_option autoImplicit false
set_option relaxedAutoImplicit false

/-!
# Outcomes of an evaluation

What the outcome of each part of an evaluation says about the outcomes of its own parts. A tree and a
list of properties stop at the first part that settles the answer, so an open end speaks of all parts
and a settled one of a single part.
-/

namespace Criteria

namespace Run

variable {α β : Type}

theorem outcome_bind (r : Run α) (next : α → Run β) :
    (r >>= next).outcome = r.outcome >>= fun a => (next a).outcome := by
  obtain ⟨events, stop | a⟩ := r <;> rfl

theorem bind_congr_of_outcome {r : Run α} {next next' : α → Run β}
    (same : ∀ a, r.outcome = .ok a → next a = next' a) : r >>= next = r >>= next' := by
  obtain ⟨events, stop | a⟩ := r
  · rfl
  · change andThen _ next = andThen _ next'
    simp only [andThen, same a rfl]

@[simp] theorem outcome_pure (a : α) : (pure a : Run α).outcome = .ok a := rfl

@[simp] theorem outcome_event (e : Event) : (event e).outcome = .ok () := rfl

theorem outcome_bind_eq_ok_iff {r : Run α} {next : α → Run β} {b : β} :
    (r >>= next).outcome = .ok b ↔ ∃ a, r.outcome = .ok a ∧ (next a).outcome = .ok b := by
  rw [outcome_bind, Search.bind_eq_ok_iff]

theorem outcome_bind_eq_error_iff {r : Run α} {next : α → Run β} {s : Stop} :
    (r >>= next).outcome = .error s ↔
      r.outcome = .error s ∨ ∃ a, r.outcome = .ok a ∧ (next a).outcome = .error s := by
  rw [outcome_bind, Search.bind_eq_error_iff]

theorem outcome_ofExcept_eq_ok_iff {x : Except Fault α} {a : α} :
    (ofExcept x).outcome = .ok a ↔ x = .ok a := by
  cases x <;> simp [ofExcept, answer, stop]

theorem outcome_ofExcept_eq_error_iff {x : Except Fault α} {s : Stop} :
    (ofExcept x).outcome = .error s ↔ ∃ f, x = .error f ∧ s = .fault f := by
  cases x <;> simp [ofExcept, answer, stop, eq_comm]

theorem verdict_eq_ok_iff {r : Run Bool} {b : Bool} :
    r.verdict = .ok b ↔ r.outcome = .ok b ∨ r.outcome = .error .tooDeep ∧ b = false := by
  unfold verdict
  cases r.outcome with
  | ok a => simp
  | error s => cases s <;> simp [eq_comm]

theorem outcome_eq_true_of_verdict {r : Run Bool} (satisfied : r.verdict = .ok true) :
    r.outcome = .ok true := by
  simpa using verdict_eq_ok_iff.mp satisfied

theorem verdict_congr {r r' : Run Bool} (same : r.outcome = r'.outcome) : r.verdict = r'.verdict := by
  rw [verdict, verdict, same]

@[simp] theorem trace_pure (a : α) : (pure a : Run α).trace = [] := rfl

@[simp] theorem trace_ofExcept (x : Except Fault α) : (ofExcept x).trace = [] := by
  cases x <;> rfl

theorem trace_bind_of_ok {r : Run α} {a : α} (answer : r.outcome = .ok a) (next : α → Run β) :
    (r >>= next).trace = r.trace ++ (next a).trace := by
  have events : (r >>= next).events = r.events ++ (next a).events := by
    change (r.andThen next).events = _
    rw [events_andThen, answer]
  simp [trace, events]

theorem trace_bind_of_error {r : Run α} {s : Stop} (stopped : r.outcome = .error s)
    (next : α → Run β) : (r >>= next).trace = r.trace := by
  have events : (r >>= next).events = r.events := by
    change (r.andThen next).events = _
    rw [events_andThen, stopped, List.append_nil]
  simp [trace, events]

end Run

theorem Predicate.outcome_judge_ne_tooDeep (p : Predicate) (o : Options) (v : Value) :
    (p.judge o v).outcome ≠ .error .tooDeep := by
  change (p.call (p.arguments o v)).verdict.mapError Stop.fault ≠ _
  cases (p.call (p.arguments o v)).verdict with
  | ok b => exact nofun
  | error f => exact nofun

theorem Predicate.trace_judge (p : Predicate) (o : Options) (v : Value) : (p.judge o v).trace = [] := by
  have silent (lines : List LogLine) : Event.trace (lines.map .said) = [] := by
    simp [Event.trace, List.filterMap_map, Function.comp_def, Event.judgement?]
  exact silent _

namespace Evaluation

variable {table : PredicateTable} {o : Options} {nested : Nested} {depth : Nat} {mode : Mode}
  {path : String} {v : Value}

theorem has_of_entries {argument : Value} {asked : List (Value × Value)}
    (mapping : argument.entries? = some asked) :
    has o mode v argument = asked.allM (meetsAt o v (mode == .all)) := by
  unfold has
  rw [mapping, Value.text?_eq_none_of_entries mapping, Value.items?_eq_none_of_entries mapping]

def judgeProperty (o : Options) (nested : Nested) (v : Value) (path : String)
    (entry : Value × Value) : Run Bool := do
  let found ← Run.ofExcept (Path.resolve v entry.1 o.fallback)
  nested found (.ofValue entry.2) .default (path ++ "." ++ entry.1.display)

theorem judgeProperties_cons (entry : Value × Value) (rest : List (Value × Value)) :
    judgeProperties o nested v path (entry :: rest) = (do
      if ← judgeProperty o nested v path entry then judgeProperties o nested v path rest
      else pure false) := by
  simp only [judgeProperties, judgeProperty, bind_assoc, monadLift_self]

theorem outcome_judgeProperties (entries : List (Value × Value)) :
    (judgeProperties o nested v path entries).outcome =
      entries.allM fun entry => (judgeProperty o nested v path entry).outcome := by
  induction entries with
  | nil => rfl
  | cons entry rest ih =>
    rw [judgeProperties_cons, Run.outcome_bind, List.allM]
    congr 1
    funext result
    cases result with
    | false => rfl
    | true => exact ih

theorem outcome_judgeProperty_eq_ok_iff {entry : Value × Value} {b : Bool} :
    (judgeProperty o nested v path entry).outcome = .ok b ↔
      ∃ found, Path.resolve v entry.1 o.fallback = .ok found ∧
        (nested found (.ofValue entry.2) .default (path ++ "." ++ entry.1.display)).outcome
          = .ok b := by
  simp only [judgeProperty, Run.outcome_bind_eq_ok_iff, Run.outcome_ofExcept_eq_ok_iff]

theorem judgeProperties_single {property rules found : Value}
    (resolved : Path.resolve v property o.fallback = .ok found) :
    judgeProperties o nested v path [(property, rules)] =
      nested found (.ofValue rules) .default (path ++ "." ++ property.display) := by
  have answered (r : Run Bool) : (do if ← r then pure true else pure false) = r := by
    calc
      _ = r >>= pure := by
        congr 1
        funext b
        cases b <;> rfl
      _ = r := bind_pure r
  simp only [judgeProperties, resolved, Run.ofExcept]
  exact answered _

theorem judgeEntry_of_rule {key argument : Value} {rule : RuleName}
    (named : RuleName.ofValue? key = some rule) :
    judgeEntry o nested depth mode path v (key, argument) = (do
      let result ← judgeRule o nested mode v rule argument (rulePath path key)
      Run.event (.judged ⟨rulePath path key, key.display, argument, v, result, depth⟩)
      return some result) := by
  simp only [judgeEntry, named, monadLift_self]

theorem judgeEntry_of_unknown {key argument : Value} (unknown : RuleName.ofValue? key = none) :
    judgeEntry o nested depth mode path v (key, argument) =
      if o.strict then (do
        Run.event (.rejected key (rulePath path key))
        Run.event (.judged ⟨rulePath path key, key.display, argument, v, false, depth⟩)
        return some false)
      else (do
        Run.event (.ignored key (rulePath path key))
        return none) := by
  simp only [judgeEntry, unknown, monadLift_self]

theorem outcome_judgeEntry_of_rule {key argument : Value} {rule : RuleName}
    (named : RuleName.ofValue? key = some rule) :
    (judgeEntry o nested depth mode path v (key, argument)).outcome =
      some <$> (judgeRule o nested mode v rule argument (rulePath path key)).outcome := by
  rw [judgeEntry_of_rule named, Run.outcome_bind]
  cases answer : (judgeRule o nested mode v rule argument (rulePath path key)).outcome <;> rfl

theorem outcome_judgeEntry_of_unknown {key argument : Value}
    (unknown : RuleName.ofValue? key = none) :
    (judgeEntry o nested depth mode path v (key, argument)).outcome =
      .ok (if o.strict then some false else none) := by
  rw [judgeEntry_of_unknown unknown]
  cases o.strict <;> rfl

section Entries

variable {judge : Value × Value → Run (Option Bool)}

theorem outcome_judgeEntries_open_iff (entries : List (Value × Value)) :
    (judgeEntries mode judge entries).outcome = .ok (mode != .any) ↔
      ∀ entry ∈ entries, ∃ result, (judge entry).outcome = .ok result ∧
        result ≠ some (mode == .any) := by
  induction entries with
  | nil => simp [judgeEntries]
  | cons entry rest ih =>
    rw [judgeEntries, Run.outcome_bind, List.forall_mem_cons, ← ih]
    cases answer : (judge entry).outcome with
    | error s => simp [bind, Except.bind]
    | ok result =>
      cases result with
      | none => simp [bind, Except.bind]
      | some b => cases mode <;> cases b <;> simp [bind, Except.bind]

theorem exists_of_outcome_judgeEntries_settled {entries : List (Value × Value)}
    (settled : (judgeEntries mode judge entries).outcome = .ok (mode == .any)) :
    ∃ entry ∈ entries, (judge entry).outcome = .ok (some (mode == .any)) := by
  induction entries with
  | nil =>
    have answered : (mode != .any) = (mode == .any) := by
      simpa [judgeEntries] using settled
    cases mode <;> exact absurd answered (by decide)
  | cons entry rest ih =>
    rw [judgeEntries, Run.outcome_bind_eq_ok_iff] at settled
    obtain ⟨result, answer, later⟩ := settled
    by_cases settles : result = some (mode == .any)
    · exact ⟨entry, by simp, by rw [answer, settles]⟩
    · have open_ : (judgeEntries mode judge rest).outcome = .ok (mode == .any) := by
        cases result with
        | none => exact later
        | some b => cases mode <;> cases b <;> simp_all
      obtain ⟨found, member, foundAnswer⟩ := ih open_
      exact ⟨found, List.mem_cons_of_mem entry member, foundAnswer⟩

theorem exists_of_outcome_judgeEntries_error {entries : List (Value × Value)} {s : Stop}
    (stopped : (judgeEntries mode judge entries).outcome = .error s) :
    ∃ entry ∈ entries, (judge entry).outcome = .error s := by
  induction entries with
  | nil => simp [judgeEntries] at stopped
  | cons entry rest ih =>
    rw [judgeEntries, Run.outcome_bind_eq_error_iff] at stopped
    rcases stopped with here | ⟨result, answer, later⟩
    · exact ⟨entry, by simp, here⟩
    · have stoppedLater : (judgeEntries mode judge rest).outcome = .error s := by
        cases result with
        | none => exact later
        | some b => cases mode <;> cases b <;> simp_all
      obtain ⟨found, member, foundAnswer⟩ := ih stoppedLater
      exact ⟨found, List.mem_cons_of_mem entry member, foundAnswer⟩

theorem outcome_judgeEntries_of_answers {entries : List (Value × Value)}
    {settles : Value × Value → Bool}
    (answers : ∀ entry ∈ entries, ∃ result, (judge entry).outcome = .ok result ∧
      (result == some (mode == .any)) = settles entry) :
    (judgeEntries mode judge entries).outcome = .ok (entries.any settles == (mode == .any)) := by
  induction entries with
  | nil => cases mode <;> rfl
  | cons entry rest ih =>
    have later := ih fun e member => answers e (List.mem_cons_of_mem entry member)
    obtain ⟨result, answer, settled⟩ := answers entry List.mem_cons_self
    rw [judgeEntries, Run.outcome_bind, answer, List.any_cons, ← settled]
    generalize (mode == .any) = settling at later ⊢
    cases result with
    | none => simpa [bind, Except.bind] using later
    | some b => cases settling <;> cases b <;> simp [bind, Except.bind, later]

end Entries

theorem judgeNegation_of_isRule {argument : Value} (rule : argument.IsRule) :
    judgeNegation nested v argument path =
      (do return !(← nested v (.ofValue argument) .default path)) := by
  unfold judgeNegation
  rcases RuleNode.ofValue_cases argument with ⟨_, _, node⟩ | ⟨_, _, node⟩ | ⟨malformed, _⟩
  · rw [node]
  · rw [node]
  · exact absurd rule malformed

theorem judge_single (name : RuleName) (argument : Value) (left : Nat) :
    judge table o (left + 1) v (.ofValue (.plain [(.text name.name, argument)])) mode path = (do
      let result ← judgeRule o (judge table o left) mode v name argument
        (rulePath path (.text name.name))
      Run.event (.judged ⟨rulePath path (.text name.name), name.name, argument, v, result,
        (o.maxDepth - left : Nat)⟩)
      return result) := by
  have named : RuleName.ofValue? (.text name.name) = some name := RuleName.ofName?_name name
  change judgeEntries mode _ [(.text name.name, argument)] = _
  simp only [judgeEntries, judgeEntry_of_rule named, bind_assoc, pure_bind]
  congr 1
  funext result
  cases mode <;> cases result <;> rfl

theorem outcome_judge_single (name : RuleName) (argument : Value) (left : Nat) :
    (judge table o (left + 1) v (.ofValue (.plain [(.text name.name, argument)])) mode path).outcome =
      (judgeRule o (judge table o left) mode v name argument
        (rulePath path (.text name.name))).outcome := by
  rw [judge_single, Run.outcome_bind]
  cases (judgeRule o (judge table o left) mode v name argument _).outcome <;> rfl

@[simp] theorem outcome_judge_zero (node : RuleNode) :
    (judge table o 0 v node mode path).outcome = .error .tooDeep := rfl

@[simp] theorem outcome_judgeNode_malformed (raw : Value) :
    (judgeNode table o nested depth v (.malformed raw) mode path).outcome = .ok false := rfl

end Evaluation

end Criteria
