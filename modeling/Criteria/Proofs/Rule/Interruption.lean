import Criteria.Proofs.Rule.Outcome

set_option autoImplicit false
set_option relaxedAutoImplicit false

/-!
# Where an evaluation is stopped

An evaluation that is stopped has judged what comes before the place where that happens. In a tree, and
among the properties of `match`, these are the entries before the one that is stopped, and then what has
been judged within that one. No rule around the place has been judged.
-/

namespace Criteria

namespace Run

variable {α β γ : Type} {s : Stop} {made : List Judgement}

/-- A run is stopped after it has made the given judgements. -/
def StopsAfter (r : Run α) (s : Stop) (made : List Judgement) : Prop :=
  r.outcome = .error s ∧ r.trace = made

theorem not_stopsAfter_pure (a : α) : ¬ (pure a : Run α).StopsAfter s made := by
  rintro ⟨stopped, _⟩
  simp at stopped

theorem stopsAfter_ofExcept_iff {x : Except Fault α} :
    (ofExcept x).StopsAfter s made ↔ (ofExcept x).outcome = .error s ∧ made = [] := by
  simp [StopsAfter, eq_comm]

theorem stopsAfter_bind_iff {r : Run α} {next : α → Run β} :
    (r >>= next).StopsAfter s made ↔ r.StopsAfter s made ∨
      ∃ a later, r.outcome = .ok a ∧ (next a).StopsAfter s later ∧ made = r.trace ++ later := by
  cases outcome : r.outcome with
  | error s' =>
    unfold StopsAfter
    rw [outcome_bind_eq_error_iff, trace_bind_of_error outcome]
    simp [outcome]
  | ok a =>
    have stopped : (r >>= next).outcome = .error s ↔ (next a).outcome = .error s := by
      rw [outcome_bind, outcome]
      exact Iff.rfl
    constructor
    · rintro ⟨here, rfl⟩
      exact .inr ⟨a, _, rfl, ⟨stopped.mp here, rfl⟩, trace_bind_of_ok outcome next⟩
    · rintro (⟨here, _⟩ | ⟨a', later, same, ⟨there, rfl⟩, rfl⟩)
      · simp [outcome] at here
      · obtain rfl : a = a' := Except.ok.inj same
        exact ⟨stopped.mpr there, trace_bind_of_ok outcome next⟩

theorem stopsAfter_bind_iff_of_answers {r : Run α} {next : α → Run β}
    (answers : ∀ a, ∃ b, (next a).outcome = .ok b) :
    (r >>= next).StopsAfter s made ↔ r.StopsAfter s made := by
  rw [stopsAfter_bind_iff, or_iff_left]
  rintro ⟨a, later, _, ⟨stopped, _⟩, _⟩
  obtain ⟨b, answer⟩ := answers a
  simp [answer] at stopped

theorem stopsAfter_iff_split {items : List α} (each : α → Run β) (whole : List α → Run γ)
    (passes : β → Prop) (nil : ∃ c, whole [] = pure c)
    (cons : ∀ item rest, ∃ next, whole (item :: rest) = each item >>= next ∧
      (∀ b, passes b → next b = whole rest) ∧ ∀ b, ¬ passes b → ∃ c, next b = pure c) :
    (whole items).StopsAfter s made ↔ ∃ before item after within,
      items = before ++ item :: after ∧ (∀ x ∈ before, ∃ b, (each x).outcome = .ok b ∧ passes b) ∧
      (each item).StopsAfter s within ∧ made = before.flatMap (fun x => (each x).trace) ++ within := by
  induction items generalizing made with
  | nil =>
    obtain ⟨c, empty⟩ := nil
    rw [empty]
    simp [not_stopsAfter_pure]
  | cons item rest ih =>
    obtain ⟨next, first, onward, settled⟩ := cons item rest
    rw [first, stopsAfter_bind_iff]
    -- Either the first run is the one that is stopped, or it has passed and comes before that one.
    constructor
    · rintro (here | ⟨b, later, answer, stopped, rfl⟩)
      · exact ⟨[], item, rest, made, rfl, by simp, here, rfl⟩
      · have passed : passes b := by
          apply Classical.byContradiction
          intro failed
          obtain ⟨c, answered⟩ := settled b failed
          rw [answered] at stopped
          exact not_stopsAfter_pure c stopped
        rw [onward b passed, ih] at stopped
        obtain ⟨before, found, after, within, rfl, before_pass, stops, rfl⟩ := stopped
        refine ⟨item :: before, found, after, within, rfl, ?_, stops, by simp⟩
        exact List.forall_mem_cons.mpr ⟨⟨b, answer, passed⟩, before_pass⟩
    · rintro ⟨before, found, after, within, split, before_pass, stops, rfl⟩
      cases before with
      | nil =>
        obtain ⟨rfl, rfl⟩ := List.cons.inj split
        exact .inl stops
      | cons item' before =>
        obtain ⟨rfl, rfl⟩ := List.cons.inj split
        obtain ⟨⟨b, answer, passed⟩, rest_pass⟩ := List.forall_mem_cons.mp before_pass
        have later : (next b).StopsAfter s (before.flatMap (fun x => (each x).trace) ++ within) := by
          rw [onward b passed, ih]
          exact ⟨before, found, after, within, rfl, rest_pass, stops, rfl⟩
        exact .inr ⟨b, _, answer, later, by simp⟩

end Run

namespace Evaluation

/-- What rules have judged when they are stopped, by the value, the node, the mode and the path. -/
abbrev Stopping := Value → RuleNode → Mode → String → List Judgement → Prop

section Places

variable (table : PredicateTable) (o : Options) (nested : Nested) (inner : Stopping) (s : Stop)
  (depth : Nat) (mode : Mode) (path : String) (v : Value)

/-- What has been judged of one property: nothing if it cannot be resolved. -/
def PropertyStopped (property : Value × Value) (made : List Judgement) : Prop :=
  match Path.resolve v property.1 o.fallback with
  | .error f => s = .fault f ∧ made = []
  | .ok found => inner found (.ofValue property.2) .default (path ++ "." ++ property.1.display) made

/-- What has been judged of a rule: what the rules in it have judged, and nothing if it has none in it. -/
def RuleStopped (name : RuleName) (argument : Value) (made : List Judgement) : Prop :=
  match name with
  | .any => inner v (.ofValue argument) .any path made
  | .all => inner v (.ofValue argument) .all path made
  | .negation => argument.IsRule ∧ inner v (.ofValue argument) .default path made
  | .properties => ∃ before property after within,
      argument.entries? = some (before ++ property :: after) ∧
      (∀ e ∈ before, (judgeProperty o nested v path e).outcome = .ok true) ∧
      PropertyStopped o inner s path v property within ∧
      made = before.flatMap (fun e => (judgeProperty o nested v path e).trace) ++ within
  | name => (judgeRule o nested mode v name argument path).outcome = .error s ∧ made = []

/-- What has been judged of a node: of a tree, all entries before the one that is stopped, and what has
been judged within that one. -/
def NodeStopped : RuleNode → List Judgement → Prop
  | .tree entries, made => ∃ before entry after within,
      entries = before ++ entry :: after ∧
      (∀ e ∈ before, ∃ result, (judgeEntry o nested depth mode path v e).outcome = .ok result ∧
        result ≠ some (mode == .any)) ∧
      (∃ name, RuleName.ofValue? entry.1 = some name ∧
        RuleStopped o nested inner s mode (rulePath path entry.1) v name entry.2 within) ∧
      made = before.flatMap (fun e => (judgeEntry o nested depth mode path v e).trace) ++ within
  | .predicate f, made => ((table f).judge o v).outcome = .error s ∧ made = []
  | .malformed _, _ => False

def Stopped : Nat → Stopping
  | 0 => fun _ _ _ _ made => s = .tooDeep ∧ made = []
  | left + 1 => fun v node mode path made =>
    NodeStopped table o (judge table o left) (Stopped left) s (o.maxDepth - left) mode path v node made

end Places

variable {table : PredicateTable} {o : Options} {nested : Nested} {inner : Stopping} {s : Stop}
  {depth : Nat} {mode : Mode} {path : String} {v : Value} {made : List Judgement}

section Inside

variable (inside : ∀ found node mode path made,
  (nested found node mode path).StopsAfter s made ↔ inner found node mode path made)

include inside

theorem stopsAfter_judgeProperty_iff (property : Value × Value) :
    (judgeProperty o nested v path property).StopsAfter s made ↔
      PropertyStopped o inner s path v property made := by
  unfold judgeProperty PropertyStopped
  rw [Run.stopsAfter_bind_iff, Run.stopsAfter_ofExcept_iff]
  cases Path.resolve v property.1 o.fallback with
  | error f => simp [Run.ofExcept, Run.stop, eq_comm]
  | ok found => simp [Run.ofExcept, Run.answer, Run.trace, inside]

theorem stopsAfter_judgeProperties_iff (properties : List (Value × Value)) :
    (judgeProperties o nested v path properties).StopsAfter s made ↔ ∃ before property after within,
      properties = before ++ property :: after ∧
      (∀ e ∈ before, (judgeProperty o nested v path e).outcome = .ok true) ∧
      PropertyStopped o inner s path v property within ∧
      made = before.flatMap (fun e => (judgeProperty o nested v path e).trace) ++ within := by
  rw [Run.stopsAfter_iff_split (judgeProperty o nested v path) (judgeProperties o nested v path)
    (· = true) ⟨true, rfl⟩ ?_]
  · simp only [exists_eq_right, stopsAfter_judgeProperty_iff inside]
  · intro property rest
    refine ⟨_, judgeProperties_cons property rest, ?_, fun b failed => ⟨false, by simp [failed]⟩⟩
    rintro b rfl
    rfl

theorem stopsAfter_judgeNegation_iff (argument : Value) :
    (judgeNegation nested v argument path).StopsAfter s made ↔
      argument.IsRule ∧ inner v (.ofValue argument) .default path made := by
  by_cases rule : argument.IsRule
  · rw [judgeNegation_of_isRule rule, Run.stopsAfter_bind_iff_of_answers fun b => ⟨!b, rfl⟩, inside]
    simp [rule]
  · have malformed : judgeNegation nested v argument path = pure false := by
      rw [judgeNegation, RuleNode.ofValue_of_not_isRule rule]
    rw [malformed]
    simp [rule, Run.not_stopsAfter_pure]

theorem stopsAfter_judgeRule_iff (name : RuleName) (argument : Value) :
    (judgeRule o nested mode v name argument path).StopsAfter s made ↔
      RuleStopped o nested inner s mode path v name argument made := by
  cases name with
  | any => exact inside v _ .any path made
  | all => exact inside v _ .all path made
  | negation => exact stopsAfter_judgeNegation_iff inside argument
  | properties =>
    simp only [judgeRule, RuleStopped]
    cases properties : argument.entries? with
    | none => simp [Run.not_stopsAfter_pure]
    | some entries =>
      simp only [stopsAfter_judgeProperties_iff inside, Option.some.injEq]
  | _ => exact Run.stopsAfter_ofExcept_iff

theorem stopsAfter_judgeEntry_iff (entry : Value × Value) :
    (judgeEntry o nested depth mode path v entry).StopsAfter s made ↔
      ∃ name, RuleName.ofValue? entry.1 = some name ∧
        RuleStopped o nested inner s mode (rulePath path entry.1) v name entry.2 made := by
  obtain ⟨key, argument⟩ := entry
  cases named : RuleName.ofValue? key with
  | none => simp [Run.StopsAfter, outcome_judgeEntry_of_unknown named]
  | some name =>
    rw [judgeEntry_of_rule named, Run.stopsAfter_bind_iff_of_answers fun b => ⟨some b, rfl⟩,
      stopsAfter_judgeRule_iff inside]
    simp

theorem stopsAfter_judgeNode_iff (node : RuleNode) :
    (judgeNode table o nested depth v node mode path).StopsAfter s made ↔
      NodeStopped table o nested inner s depth mode path v node made := by
  cases node with
  | tree entries =>
    simp only [judgeNode, NodeStopped]
    rw [Run.stopsAfter_iff_split (judgeEntry o nested depth mode path v)
      (judgeEntries mode (judgeEntry o nested depth mode path v)) (· ≠ some (mode == .any)) ⟨_, rfl⟩ ?_]
    · simp only [stopsAfter_judgeEntry_iff inside]
    · intro entry rest
      refine ⟨_, rfl, ?_, ?_⟩
      · rintro (_ | b) passed
        · rfl
        · have open_ : (b == (mode == .any)) = false := by simpa using passed
          simp only [open_]
          rfl
      · intro result settled
        obtain rfl : result = some (mode == .any) := Decidable.not_not.mp settled
        exact ⟨mode == .any, by simp⟩
  | predicate f =>
    simp only [judgeNode, monadLift_self, NodeStopped]
    rw [Run.stopsAfter_bind_iff_of_answers fun b => ⟨b, rfl⟩, Run.StopsAfter, Predicate.trace_judge,
      eq_comm (a := [])]
  | malformed raw => simp [Run.StopsAfter, NodeStopped]

end Inside

/-- An evaluation is stopped after it has made the judgements that come before the place. -/
theorem stopsAfter_judge_iff (left : Nat) (node : RuleNode) :
    (judge table o left v node mode path).StopsAfter s made ↔
      Stopped table o s left v node mode path made := by
  induction left generalizing v node mode path made with
  | zero =>
    have silent : (judge table o 0 v node mode path).trace = [] := rfl
    simp [Run.StopsAfter, Stopped, silent, eq_comm]
  | succ left ih => exact stopsAfter_judgeNode_iff (fun found node mode path made => ih node) node

end Evaluation

end Criteria
