import Criteria.Proofs.Rule.Outcome

set_option autoImplicit false
set_option relaxedAutoImplicit false

/-!
# Evaluations side by side

Two evaluations of the same rules go the same way as far as the rules inside are judged the same way,
be they made in one monad or in two. A relation that respects how evaluations are put together thus
extends from the rules inside a node to the node.
-/

namespace Criteria

/-- Whether an event comes of judging rules, and not from a predicate or the depth limit. -/
def Event.isOrdinary : Event → Bool
  | .tooDeep .. | .said _ => false
  | _ => true

theorem Options.fallback_congr {o o' : Options} (sameData : o.data = o'.data) :
    o.fallback = o'.fallback :=
  congrArg (Option.map Options.dataValue) sameData

theorem Evaluation.has_congr {o o' : Options} (sameData : o.data = o'.data) : has o = has o' := by
  have sameFallback := Options.fallback_congr sameData
  have sameAt : isAt o = isAt o' := by
    funext v path
    simp only [isAt, sameFallback]
  have sameMeets : meetsAt o = meetsAt o' := by
    funext v needsAll entry
    simp only [meetsAt, sameFallback]
  funext mode v argument
  simp only [has, sameAt, sameMeets]

namespace Evaluation

/-- A relation between evaluations in two monads that holds between equal steps and is kept by one
evaluation after another. -/
structure Congruence (m m' : Type → Type) [Monad m] [MonadLiftT Run m] [Monad m'] [MonadLiftT Run m'] where
  Related : {α : Type} → m α → m' α → Prop
  answer {α : Type} (a : α) : Related (pure a) (pure a)
  step {α : Type} {r : Run α} : (∀ e ∈ r.events, e.isOrdinary = true) → r.outcome ≠ .error .tooDeep →
    Related (liftM r) (liftM r)
  bind {α β : Type} {r : m α} {r' : m' α} {next : α → m β} {next' : α → m' β} :
    Related r r' → (∀ a, Related (next a) (next' a)) → Related (r >>= next) (r' >>= next')

namespace Congruence

variable {m m' : Type → Type} [Monad m] [MonadLiftT Run m] [Monad m'] [MonadLiftT Run m']
  (c : Congruence m m') {o o' : Options} {nested : NestedIn m} {nested' : NestedIn m'} {depth : Nat}
  {mode : Mode} {path : String} {v : Value}

theorem ofExcept {α : Type} (x : Except Fault α) :
    c.Related (liftM (Run.ofExcept x)) (liftM (Run.ofExcept x)) := by
  cases x with
  | ok a => exact c.step (by simp [Run.ofExcept, Run.answer]) (by simp [Run.ofExcept, Run.answer])
  | error f => exact c.step (by simp [Run.ofExcept, Run.stop]) (by simp [Run.ofExcept, Run.stop])

theorem event {e : Event} (ordinary : e.isOrdinary = true) :
    c.Related (liftM (Run.event e)) (liftM (Run.event e)) :=
  c.step (by simpa [Run.event] using ordinary) (by simp)

theorem judgeEntries {judge : Value × Value → m (Option Bool)} {judge' : Value × Value → m' (Option Bool)}
    {entries : List (Value × Value)}
    (each : ∀ entry ∈ entries, c.Related (judge entry) (judge' entry)) :
    c.Related (Evaluation.judgeEntries mode judge entries)
      (Evaluation.judgeEntries mode judge' entries) := by
  induction entries with
  | nil => exact c.answer _
  | cons entry rest ih =>
    have later := ih fun e member => each e (List.mem_cons_of_mem entry member)
    refine c.bind (each entry List.mem_cons_self) fun result => ?_
    cases result with
    | none => exact later
    | some b =>
      by_cases settles : (b == (mode == .any)) = true
      · simp only [settles, if_true]
        exact c.answer b
      · simp only [settles]
        exact later

theorem judgeProperties (sameData : o.data = o'.data) {entries : List (Value × Value)}
    (each : ∀ entry ∈ entries, ∀ found path,
      c.Related (nested found (.ofValue entry.2) .default path)
        (nested' found (.ofValue entry.2) .default path)) :
    c.Related (Evaluation.judgeProperties o nested v path entries)
      (Evaluation.judgeProperties o' nested' v path entries) := by
  have sameFallback := Options.fallback_congr sameData
  induction entries with
  | nil => exact c.answer _
  | cons entry rest ih =>
    have later := ih fun e member => each e (List.mem_cons_of_mem entry member)
    simp only [Evaluation.judgeProperties, sameFallback]
    refine c.bind (c.ofExcept _) fun found => ?_
    refine c.bind (each entry List.mem_cons_self found _) fun result => ?_
    cases result with
    | true => exact later
    | false => exact c.answer false

theorem judgeNegation {argument : Value}
    (inside : c.Related (nested v (.ofValue argument) .default path)
      (nested' v (.ofValue argument) .default path)) :
    c.Related (Evaluation.judgeNegation nested v argument path)
      (Evaluation.judgeNegation nested' v argument path) := by
  unfold Evaluation.judgeNegation
  split
  · exact c.answer false
  · exact c.bind inside fun result => c.answer (!result)

theorem judgeRule {node key argument : Value} {entries : List (Value × Value)} {name : RuleName}
    (sameData : o.data = o'.data) (mapping : node.entries? = some entries)
    (member : (key, argument) ∈ entries) (named : RuleName.ofValue? key = some name)
    (inside : ∀ inner ∈ node.innerRules, ∀ found mode path,
      c.Related (nested found (.ofValue inner) mode path)
        (nested' found (.ofValue inner) mode path)) :
    c.Related (Evaluation.judgeRule o nested mode v name argument path)
      (Evaluation.judgeRule o' nested' mode v name argument path) := by
  have held (nesting : name ∈ [RuleName.any, .all, .negation]) : argument ∈ node.innerRules :=
    Value.argument_mem_innerRules mapping member named nesting
  cases name with
  | type => exact c.ofExcept _
  | has =>
    simp only [Evaluation.judgeRule, Evaluation.has_congr sameData]
    exact c.ofExcept _
  | any => exact inside argument (held (by simp)) v .any path
  | all => exact inside argument (held (by simp)) v .all path
  | negation => exact c.judgeNegation (inside argument (held (by simp)) v .default path)
  | properties =>
    simp only [Evaluation.judgeRule]
    split
    · rename_i properties asked
      refine c.judgeProperties sameData fun entry propertyMember found path => ?_
      exact inside entry.2 (Value.property_mem_innerRules mapping member named asked propertyMember)
        found .default path
    · exact c.answer false
  | includesAny => exact c.ofExcept _
  | includesAll => exact c.ofExcept _
  | comparison comparison => exact c.ofExcept _

theorem judgeEntry {node : Value} {entries : List (Value × Value)} {entry : Value × Value}
    (sameData : o.data = o'.data) (sameStrict : o.strict = o'.strict)
    (mapping : node.entries? = some entries) (member : entry ∈ entries)
    (inside : ∀ inner ∈ node.innerRules, ∀ found mode path,
      c.Related (nested found (.ofValue inner) mode path)
        (nested' found (.ofValue inner) mode path)) :
    c.Related (Evaluation.judgeEntry o nested depth mode path v entry)
      (Evaluation.judgeEntry o' nested' depth mode path v entry) := by
  obtain ⟨key, argument⟩ := entry
  cases named : RuleName.ofValue? key with
  | none =>
    simp only [Evaluation.judgeEntry, named, sameStrict]
    split
    · exact c.bind (c.event rfl) fun _ => c.bind (c.event rfl) fun _ => c.answer _
    · exact c.bind (c.event rfl) fun _ => c.answer _
  | some name =>
    simp only [Evaluation.judgeEntry, named]
    refine c.bind (c.judgeRule sameData mapping member named inside) fun result => ?_
    exact c.bind (c.event rfl) fun _ => c.answer _

theorem judgeNode {table : PredicateTable} {node : Value} (sameData : o.data = o'.data)
    (sameStrict : o.strict = o'.strict)
    (predicate : ∀ f, node = .function f →
      c.Related (liftM ((table f).judge o v)) (liftM ((table f).judge o' v)))
    (inside : ∀ inner ∈ node.innerRules, ∀ found mode path,
      c.Related (nested found (.ofValue inner) mode path)
        (nested' found (.ofValue inner) mode path)) :
    c.Related (Evaluation.judgeNode table o nested depth v (.ofValue node) mode path)
      (Evaluation.judgeNode table o' nested' depth v (.ofValue node) mode path) := by
  rcases RuleNode.ofValue_cases node with
    ⟨entries, mapping, tree⟩ | ⟨f, rfl, called⟩ | ⟨_, malformed⟩
  · rw [tree]
    exact c.judgeEntries fun entry member => c.judgeEntry sameData sameStrict mapping member inside
  · rw [called]
    refine c.bind (predicate f rfl) fun result => ?_
    exact c.bind (c.event rfl) fun _ => c.answer result
  · rw [malformed]
    exact c.bind (c.event rfl) fun _ => c.answer false

theorem judge {table : PredicateTable} {rules node : Value} {left level : Nat}
    (reflexive : ∀ {α : Type} (r : Run α), c.Related (liftM r) (liftM r)) (sameData : o.data = o'.data)
    (sameStrict : o.strict = o'.strict) (sameLimit : o.maxDepth = o'.maxDepth)
    (predicate : ∀ level f, rules.StandsAt level (.function f) → ∀ v,
      c.Related (liftM ((table f).judge o v)) (liftM ((table f).judge o' v)))
    (standing : rules.StandsAt level node) :
    c.Related (judgeIn m table o left v (.ofValue node) mode path)
      (judgeIn m' table o' left v (.ofValue node) mode path) := by
  induction left generalizing level node v mode path with
  | zero =>
    simp only [judgeIn, sameLimit]
    exact c.bind (reflexive _) fun _ => reflexive _
  | succ left ih =>
    simp only [judgeIn, sameLimit]
    refine c.judgeNode sameData sameStrict ?_ ?_
    · rintro f rfl
      exact predicate level f standing v
    · intro inner inside found mode path
      exact ih (standing.within inside)

end Congruence

end Evaluation

end Criteria
