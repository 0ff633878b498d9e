import Criteria.Proofs.Rule.Outcome
import Criteria.Rule.Catalog

set_option autoImplicit false
set_option relaxedAutoImplicit false

/-!
# Rules within rules

Rules that stand under `match` or `not` are judged as they would be on their own with one level less.
The events of the one evaluation are those of the other, one level deeper and at longer paths, and after
them comes the judgement of the rule around them.
-/

namespace Criteria

def Judgement.displaced (place : String → String) (j : Judgement) : Judgement :=
  { j with path := place j.path, depth := j.depth + 1 }

def Event.displaced (place : String → String) : Event → Event
  | .judged j => .judged (j.displaced place)
  | .malformed path raw => .malformed (place path) raw
  | .ignored name path => .ignored name (place path)
  | .rejected name path => .rejected name (place path)
  | .tooDeep limit path => .tooDeep (limit + 1) (place path)
  | .said line => .said line

namespace Run

variable {α β : Type} {place : String → String}

def displaced (place : String → String) (r : Run α) : Run α :=
  ⟨r.events.map (Event.displaced place), r.outcome⟩

theorem displaced_bind (r : Run α) (next : α → Run β) :
    (r >>= next).displaced place = r.displaced place >>= fun a => (next a).displaced place := by
  obtain ⟨events, s | a⟩ := r
  · rfl
  · change (⟨(events ++ (next a).events).map _, _⟩ : Run β) = ⟨events.map _ ++ _, _⟩
    rw [List.map_append]
    rfl

@[simp] theorem displaced_ofExcept (x : Except Fault α) :
    (ofExcept x).displaced place = ofExcept x := by
  cases x <;> rfl

theorem trace_displaced (r : Run α) :
    (r.displaced place).trace = r.trace.map (Judgement.displaced place) := by
  simp only [trace, Event.trace, displaced, List.filterMap_map, List.map_filterMap]
  congr 1
  funext e
  cases e <;> rfl

end Run

/-- A predicate stands nowhere: what it has the log say stays as it is. -/
theorem Predicate.displaced_judge (p : Predicate) (o : Options) (v : Value) (place : String → String) :
    (p.judge o v).displaced place = p.judge o v := by
  have kept (lines : List LogLine) : (lines.map Event.said).map (Event.displaced place) =
      lines.map .said := by
    rw [List.map_map]
    rfl
  simp only [judge, Run.displaced, kept]

namespace Evaluation

variable {table : PredicateTable} {o : Options} {nested nested' : Nested} {depth m : Nat} {mode : Mode}
  {place path : String} {v : Value}

def below (place path : String) : String := place ++ "." ++ path

theorem below_append (path segment : String) :
    below place (path ++ "." ++ segment) = below place path ++ "." ++ segment := by
  simp [below, String.append_assoc]

theorem rulePath_below (inside : path ≠ "") (key : Value) :
    rulePath (below place path) key = below place (rulePath path key) := by
  simp [rulePath, inside, below, String.append_assoc]

theorem rulePath_place (place_ne : place ≠ "") (key : Value) :
    rulePath place key = below place (rulePath "" key) := by
  simp [rulePath, place_ne, below]

theorem rulePath_ne_empty {key : Value} {name : RuleName} (named : RuleName.ofValue? key = some name) :
    rulePath path key ≠ "" := by
  have display : key.display ≠ "" := by
    rw [RuleName.eq_text_of_ofValue? named]
    cases name with
    | comparison c => cases c <;> decide
    | _ => decide
  by_cases root : path = ""
  · simpa [rulePath, root] using display
  · simp [rulePath, root]

theorem displaced_judgeEntries {judge judge' : Value × Value → Run (Option Bool)}
    {f : String → String} {entries : List (Value × Value)}
    (each : ∀ entry ∈ entries, judge' entry = (judge entry).displaced f) :
    judgeEntries mode judge' entries = (judgeEntries mode judge entries).displaced f := by
  induction entries with
  | nil => rfl
  | cons entry rest ih =>
    have later := ih fun e member => each e (List.mem_cons_of_mem entry member)
    simp only [judgeEntries, Run.displaced_bind, each entry List.mem_cons_self]
    congr 1
    funext result
    cases result with
    | none => exact later
    | some b =>
      by_cases settles : (b == (mode == .any)) = true
      · simp only [settles, if_true]
        rfl
      · simp only [settles]
        exact later

theorem displaced_judgeProperties {entries : List (Value × Value)}
    (each : ∀ entry ∈ entries, ∀ found path, path ≠ "" →
      nested' found (.ofValue entry.2) .default (below place path) =
        (nested found (.ofValue entry.2) .default path).displaced (below place)) :
    judgeProperties { o with maxDepth := m + 1 } nested' v (below place path) entries =
      (judgeProperties { o with maxDepth := m } nested v path entries).displaced (below place) := by
  induction entries with
  | nil => rfl
  | cons entry rest ih =>
    have later := ih fun e member => each e (List.mem_cons_of_mem entry member)
    simp only [judgeProperties, monadLift_self, Run.displaced_bind, Run.displaced_ofExcept,
      ← below_append]
    congr 1
    funext found
    rw [each entry List.mem_cons_self found _ (by simp)]
    congr 1
    funext result
    cases result with
    | false => rfl
    | true => exact later

theorem displaced_judgeNegation {argument : Value}
    (inside : nested' v (.ofValue argument) .default (below place path) =
      (nested v (.ofValue argument) .default path).displaced (below place)) :
    judgeNegation nested' v argument (below place path) =
      (judgeNegation nested v argument path).displaced (below place) := by
  unfold judgeNegation
  split
  · rfl
  · rw [inside, Run.displaced_bind]
    rfl

theorem displaced_judgeRule {node key argument : Value} {entries : List (Value × Value)}
    {name : RuleName} (mapping : node.entries? = some entries) (member : (key, argument) ∈ entries)
    (named : RuleName.ofValue? key = some name) (path_ne : path ≠ "")
    (inside : ∀ inner ∈ node.innerRules, ∀ found mode path, path ≠ "" →
      nested' found (.ofValue inner) mode (below place path) =
        (nested found (.ofValue inner) mode path).displaced (below place)) :
    judgeRule { o with maxDepth := m + 1 } nested' mode v name argument (below place path) =
      (judgeRule { o with maxDepth := m } nested mode v name argument path).displaced
        (below place) := by
  have held (nesting : name ∈ [RuleName.any, .all, .negation]) : argument ∈ node.innerRules :=
    Value.argument_mem_innerRules mapping member named nesting
  cases name with
  | any => exact inside argument (held (by simp)) v .any path path_ne
  | all => exact inside argument (held (by simp)) v .all path path_ne
  | negation =>
    exact displaced_judgeNegation (inside argument (held (by simp)) v .default path path_ne)
  | properties =>
    simp only [judgeRule]
    split
    · rename_i properties asked
      refine displaced_judgeProperties fun entry propertyMember found path path_ne => ?_
      exact inside entry.2 (Value.property_mem_innerRules mapping member named asked propertyMember)
        found .default path path_ne
    · rfl
  | _ => exact (Run.displaced_ofExcept _).symm

theorem displaced_judgeEntry {node : Value} {entries : List (Value × Value)} {entry : Value × Value}
    {outer : String} (mapping : node.entries? = some entries) (member : entry ∈ entries)
    (outward : ∀ key, rulePath outer key = below place (rulePath path key))
    (inside : ∀ inner ∈ node.innerRules, ∀ found mode path, path ≠ "" →
      nested' found (.ofValue inner) mode (below place path) =
        (nested found (.ofValue inner) mode path).displaced (below place)) :
    judgeEntry { o with maxDepth := m + 1 } nested' (depth + 1) mode outer v entry =
      (judgeEntry { o with maxDepth := m } nested depth mode path v entry).displaced (below place) := by
  obtain ⟨key, argument⟩ := entry
  cases named : RuleName.ofValue? key with
  | none =>
    rw [judgeEntry_of_unknown named, judgeEntry_of_unknown named, outward]
    cases strict : o.strict with
    | false => rfl
    | true => rfl
  | some name =>
    rw [judgeEntry_of_rule named, judgeEntry_of_rule named, outward, Run.displaced_bind,
      displaced_judgeRule mapping member named (rulePath_ne_empty named) inside]
    rfl

/-- A node within the rules is judged one level deeper and at a longer path as it is on its own. The
levels left are the same, so that the depth grows with the limit. -/
theorem displaced_judge {rules node : Value} {left level : Nat} (within : left ≤ m + 1)
    (steady : ∀ level f, rules.StandsAt level (.function f) → ∀ v,
      (table f).judge { o with maxDepth := m + 1 } v = (table f).judge { o with maxDepth := m } v)
    (standing : rules.StandsAt level node) (path_ne : path ≠ "") :
    judge table { o with maxDepth := m + 1 } left v (.ofValue node) mode (below place path) =
      (judge table { o with maxDepth := m } left v (.ofValue node) mode path).displaced
        (below place) := by
  induction left generalizing level node v mode path with
  | zero => rfl
  | succ left ih =>
    have deeper : m + 1 - left = m - left + 1 := by omega
    simp only [judge_succ, deeper]
    rcases RuleNode.ofValue_cases node with
      ⟨entries, mapping, tree⟩ | ⟨f, rfl, called⟩ | ⟨_, malformed⟩
    · rw [tree]
      refine displaced_judgeEntries fun entry member => ?_
      refine displaced_judgeEntry mapping member (rulePath_below path_ne) ?_
      intro inner inside found mode path path_ne
      exact ih (by omega) (standing.within inside) path_ne
    · have longer : below place path ≠ "" := by simp [below]
      rw [called]
      simp only [judgeNode, monadLift_self, Run.displaced_bind, shownPath, longer, path_ne, beq_iff_eq,
        if_false]
      rw [steady level f standing v, Predicate.displaced_judge]
      rfl
    · rw [malformed]
      rfl

end Evaluation

/-- The path at which rules that stand at a place judge what they would judge at a path on their own.
A predicate that is the whole of the rules stands at the place itself. -/
def Value.pathAt (rules : Value) (place path : String) : String :=
  match RuleNode.ofValue rules with
  | .predicate _ => place
  | _ => Evaluation.below place path

theorem Evaluation.judge_place (table : PredicateTable) (o : Options) (m : Nat) (mode : Mode)
    (v : Value) {rules : Value} {place : String} (place_ne : place ≠ "")
    (steady : ∀ level f, rules.StandsAt level (.function f) → ∀ v,
      (table f).judge { o with maxDepth := m + 1 } v = (table f).judge { o with maxDepth := m } v) :
    let outer := judge table { o with maxDepth := m + 1 } (m + 1) v (.ofValue rules) mode place
    let inner := judge table { o with maxDepth := m } (m + 1) v (.ofValue rules) mode ""
    outer.outcome = inner.outcome ∧
      outer.trace = inner.trace.map (Judgement.displaced (rules.pathAt place)) := by
  intro outer inner
  have deeper : m + 1 - m = m - m + 1 := by omega
  rcases RuleNode.ofValue_cases rules with
    ⟨entries, mapping, tree⟩ | ⟨f, rfl, called⟩ | ⟨_, malformed⟩
  · have moved : outer = inner.displaced (below place) := by
      simp only [outer, inner, judge_succ, deeper, tree]
      refine displaced_judgeEntries fun entry member => ?_
      refine displaced_judgeEntry mapping member (rulePath_place place_ne) ?_
      intro inner inside found mode path path_ne
      exact displaced_judge (by omega) steady (.within .whole inside) path_ne
    have paths : rules.pathAt place = below place := by
      funext path
      simp only [Value.pathAt, tree]
    rw [moved, paths]
    exact ⟨rfl, Run.trace_displaced inner⟩
  · have shown : shownPath place = place := by simp [shownPath, place_ne]
    have silent := Predicate.trace_judge (table f) { o with maxDepth := m } v
    simp only [outer, inner, judge_succ, judgeNode, monadLift_self, called, deeper, shown,
      steady 0 f .whole v,
      Run.outcome_bind]
    refine ⟨rfl, ?_⟩
    cases answer : ((table f).judge { o with maxDepth := m } v).outcome with
    | error s =>
      rw [Run.trace_bind_of_error answer, Run.trace_bind_of_error answer, silent]
      rfl
    | ok b =>
      rw [Run.trace_bind_of_ok answer, Run.trace_bind_of_ok answer, silent]
      rfl
  · have paths : rules.pathAt place = below place := by
      funext path
      simp only [Value.pathAt, malformed]
    simp only [outer, inner, judge_succ, judgeNode, malformed]
    exact ⟨rfl, rfl⟩

/-- A run surrounds another that judges rules on their own: it judges the same at a place and one level
deeper, and where the other answers it adds its own judgement of that answer. -/
structure Run.Surrounds (place : String) (rules : Value) (conclude : Bool → Bool)
    (conclusion : Bool → Judgement) (outer inner : Run Bool) : Prop where
  outcome : outer.outcome = conclude <$> inner.outcome
  trace : outer.trace = inner.trace.map (Judgement.displaced (rules.pathAt place)) ++
    match inner.outcome with
    | .ok b => [conclusion (conclude b)]
    | .error _ => []

namespace Run.Surrounds

variable {place : String} {rules : Value} {conclusion : Bool → Judgement} {outer inner : Run Bool}

theorem verdict_eq (surrounds : Run.Surrounds place rules id conclusion outer inner) :
    outer.verdict = inner.verdict := by
  rw [Run.verdict, Run.verdict, surrounds.outcome, id_map]

theorem verdict_opposite (surrounds : Run.Surrounds place rules (!·) conclusion outer inner)
    (uncut : inner.outcome ≠ .error .tooDeep) : outer.verdict = (!·) <$> inner.verdict := by
  rw [Run.verdict, Run.verdict, surrounds.outcome]
  cases answer : inner.outcome with
  | ok b => rfl
  | error s =>
    cases s with
    | tooDeep => exact absurd answer uncut
    | fault f => rfl

theorem verdict_cut (surrounds : Run.Surrounds place rules (!·) conclusion outer inner)
    (cut : inner.outcome = .error .tooDeep) : outer.verdict = .ok false := by
  rw [Run.verdict, surrounds.outcome, cut]
  rfl

theorem verdict_twice {rules' : Value} {place' : String} {conclusion' : Bool → Judgement}
    {outermost : Run Bool} (twice : Run.Surrounds place' rules' (!·) conclusion' outermost outer)
    (once : Run.Surrounds place rules (!·) conclusion outer inner) :
    outermost.verdict = inner.verdict := by
  rw [Run.verdict, Run.verdict, twice.outcome, once.outcome]
  cases answer : inner.outcome with
  | ok b => simp
  | error s => rfl

end Run.Surrounds

section Surrounding

variable {table : PredicateTable} {o : Options} {m : Nat} {v rules : Value}

private theorem surrounds_of_judgeRule (name : RuleName) {argument found : Value} {place : String}
    {conclude : Bool → Bool} (place_ne : place ≠ "")
    (steady : ∀ level f, rules.StandsAt level (.function f) → ∀ v,
      (table f).judge { o with maxDepth := m + 1 } v = (table f).judge { o with maxDepth := m } v)
    (judges : Evaluation.judgeRule { o with maxDepth := m + 1 }
        (Evaluation.judge table { o with maxDepth := m + 1 } (m + 1)) .default v name argument name.name =
      (do return conclude (← Evaluation.judge table { o with maxDepth := m + 1 } (m + 1) found
        (.ofValue rules) .default place))) :
    Run.Surrounds place rules conclude (fun b => ⟨name.name, name.name, argument, v, b, 0⟩)
      (evaluate table { o with maxDepth := m + 1 } v (.plain [(.text name.name, argument)]))
      (evaluate table { o with maxDepth := m } found rules) := by
  obtain ⟨outcomes, traces⟩ :=
    Evaluation.judge_place table o m .default found place_ne steady
  unfold evaluate
  rw [Evaluation.judge_single, show Evaluation.rulePath "" (.text name.name) = name.name from rfl,
    judges, bind_assoc]
  generalize Evaluation.judge table { o with maxDepth := m + 1 } (m + 1) found _ .default place = outer
    at outcomes traces ⊢
  generalize Evaluation.judge table { o with maxDepth := m } (m + 1) found _ .default "" = inner
    at outcomes traces ⊢
  cases answer : outer.outcome with
  | error s =>
    rw [answer] at outcomes
    constructor
    · rw [Run.outcome_bind, answer, ← outcomes]
      rfl
    · rw [Run.trace_bind_of_error answer, ← outcomes, traces, List.append_nil]
  | ok b =>
    rw [answer] at outcomes
    constructor
    · rw [Run.outcome_bind, answer, ← outcomes]
      rfl
    · rw [Run.trace_bind_of_ok answer, ← outcomes, traces]
      simp only [Nat.sub_self]
      rfl

private theorem surrounds_negation (rule : rules.IsRule)
    (steady : ∀ level f, rules.StandsAt level (.function f) → ∀ v,
      (table f).judge { o with maxDepth := m + 1 } v = (table f).judge { o with maxDepth := m } v) :
    Run.Surrounds "not" rules (!·) (fun b => ⟨"not", "not", rules, v, b, 0⟩)
      (evaluate table { o with maxDepth := m + 1 } v (.plain [(.text "not", rules)]))
      (evaluate table { o with maxDepth := m } v rules) := by
  refine surrounds_of_judgeRule .negation (by decide) steady ?_
  exact Evaluation.judgeNegation_of_isRule rule

end Surrounding

/-- Rules that `match` asks of a property are judged as they are on their own against what is found
there, and those under `not` as on their own against the same value, with one level less: the verdict
is theirs or, where the limit does not stop them, its opposite; their judgements are one level deeper
and at the place of the rule, whose own judgement comes last. A double negation takes two levels. -/
theorem evaluate_within (table : PredicateTable) (o : Options) (v rules : Value) (p : String) (m : Nat)
    (steady : ∀ level f, rules.StandsAt level (.function f) → ∀ v limit limit',
      (table f).judge { o with maxDepth := limit } v =
        (table f).judge { o with maxDepth := limit' } v) :
    let run (limit : Nat) (v rules : Value) := evaluate table { o with maxDepth := limit } v rules
    let properties := Value.plain [(.text p, rules)]
    let opposite (rules : Value) := Value.plain [(.text "not", rules)]
    (∀ found, Path.resolve v (.text p) o.fallback = .ok found →
      let outer := run (m + 1) v (.plain [(.text "match", properties)])
      let inner := run m found rules
      outer.verdict = inner.verdict ∧
      Run.Surrounds ("match." ++ p) rules id (fun b => ⟨"match", "match", properties, v, b, 0⟩)
        outer inner) ∧
    (rules.IsRule →
      let outer := run (m + 1) v (opposite rules)
      let inner := run m v rules
      (inner.outcome ≠ .error .tooDeep → outer.verdict = (!·) <$> inner.verdict) ∧
      (inner.outcome = .error .tooDeep → outer.verdict = .ok false) ∧
      Run.Surrounds "not" rules (!·) (fun b => ⟨"not", "not", rules, v, b, 0⟩) outer inner ∧
      (run (m + 2) v (opposite (opposite rules))).verdict = inner.verdict) := by
  intro run properties opposite
  refine ⟨?_, ?_⟩
  · intro found resolved outer inner
    have place_ne : "match." ++ p ≠ "" := by simp
    have surrounds : Run.Surrounds ("match." ++ p) rules id
        (fun b => ⟨"match", "match", properties, v, b, 0⟩) outer inner := by
      refine surrounds_of_judgeRule .properties place_ne
        (fun level f standing v => steady level f standing v (m + 1) m) ?_
      have sameFallback : Path.resolve v (.text p) ({ o with maxDepth := m + 1 } : Options).fallback =
          .ok found := resolved
      exact (Evaluation.judgeProperties_single sameFallback).trans (bind_pure _).symm
    exact ⟨surrounds.verdict_eq, surrounds⟩
  · intro rule outer inner
    have once : Run.Surrounds "not" rules (!·) (fun b => ⟨"not", "not", rules, v, b, 0⟩) outer inner :=
      surrounds_negation rule fun level f standing v => steady level f standing v (m + 1) m
    have twice : Run.Surrounds "not" (opposite rules) (!·)
        (fun b => ⟨"not", "not", opposite rules, v, b, 0⟩)
        (run (m + 2) v (opposite (opposite rules))) outer := by
      refine surrounds_negation (.inl ⟨_, rfl⟩) ?_
      intro level f standing v
      rcases standing.eq_or_within with same | ⟨inside, member, deeper, standing⟩
      · simp [opposite, Value.plain] at same
      · rw [List.mem_singleton.mp member] at standing
        exact steady deeper f standing v (m + 2) (m + 1)
    exact ⟨once.verdict_opposite, once.verdict_cut, once, twice.verdict_twice once⟩

/-- An age that is a number and not that of an adult, asked for under a path and then negated twice. -/
theorem evaluate_within_of_age :
    let table : PredicateTable := fun _ => Catalog.always true
    let v := Value.plain [(.text "user", .plain [(.text "age", .int 12)])]
    let adult := Value.plain [(.text "gte", .int 18)]
    let rules := Value.plain [(.text "type", .text "number"), (.text "not", adult)]
    let properties := Value.plain [(.text "user.age", rules)]
    let inner := evaluate table { maxDepth := 2 } (.int 12) rules
    let outer := evaluate table { maxDepth := 3 } v (.plain [(.text "match", properties)])
    let negated := Value.plain [(.text "not", rules)]
    inner.trace.map (·.depth) = [0, 1, 0] ∧ outer.trace.map (·.depth) = [1, 2, 1, 0] ∧
      inner.verdict = .ok true ∧ outer.verdict = inner.verdict ∧
      Run.Surrounds ("match." ++ "user.age") rules id
        (fun b => ⟨"match", "match", properties, v, b, 0⟩) outer inner ∧
      (evaluate table { maxDepth := 4 } (.int 12) (.plain [(.text "not", negated)])).verdict =
        inner.verdict := by
  intro table v adult rules properties inner outer negated
  have asked := (evaluate_within table {} v rules "user.age" 2 fun _ _ _ _ _ _ => rfl).1 (.int 12) rfl
  have twice :=
    ((evaluate_within table {} (.int 12) rules "user.age" 2 fun _ _ _ _ _ _ => rfl).2 (.inl ⟨_, rfl⟩)).2.2.2
  have levels : outer.trace.map (·.depth) = [1, 2, 1, 0] := by
    rw [asked.2.trace]
    rfl
  exact ⟨rfl, levels, rfl, asked.1, asked.2, twice⟩

end Criteria
