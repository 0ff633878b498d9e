import Criteria.Proofs.Rule.Levels
import Criteria.Rule.Catalog

set_option autoImplicit false
set_option relaxedAutoImplicit false

/-!
# Rules under `all`

A `has` asks for more under `all` than elsewhere: for every path and not for some path, for every
expected value and not for some of them. Every one of none is no more than nothing, though, and some of
none cannot be had, so a `has` that asks for nothing at some place holds under `all` and fails elsewhere.
-/

namespace Criteria

namespace Value

variable {v expected argument : Value}

def isEmptyCollection (v : Value) : Bool := v.kind.isCollection && v.elements.isEmpty

/-- Whether the argument of `has` lists no paths, or expects an empty collection at one. -/
def asksNothing (argument : Value) : Bool :=
  match argument.items?, argument.entries? with
  | some paths, _ => paths.isEmpty
  | none, some entries => entries.any fun entry => entry.2.isEmptyCollection
  | none, none => false

theorem meets_of_meets_all (satisfied : v.meets expected true = .ok true) :
    v.meets expected false = .ok (!expected.isEmptyCollection) := by
  unfold meets at satisfied ⊢
  split at satisfied
  · simp at satisfied
  · rename_i defined
    by_cases collection : expected.kind.isCollection = true
    · simp only [collection, if_true] at satisfied
      have each : ∀ member ∈ expected.elements, isAmong v.elements member = .ok true :=
        (Search.allM_eq_true_iff _).mp satisfied
      have overlap : v.includesAny expected = .ok (!expected.elements.isEmpty) :=
        Search.anyM_of_forall_true each
      simpa [defined, collection, isEmptyCollection] using overlap
    · have scalar : expected.isEmptyCollection = false := by simp [isEmptyCollection, collection]
      simp only [collection] at satisfied
      simpa [defined, collection, scalar] using satisfied

end Value

namespace Evaluation

variable {table : PredicateTable} {o : Options} {nested nested' : Nested} {depth depth' : Nat}
  {path path' : String} {v argument : Value}

theorem meetsAt_of_meetsAt_all {entry : Value × Value} (satisfied : meetsAt o v true entry = .ok true) :
    meetsAt o v false entry = .ok (!entry.2.isEmptyCollection) := by
  unfold meetsAt at satisfied ⊢
  split at satisfied
  · rename_i isText
    obtain ⟨found, resolved, held⟩ := Search.bind_eq_ok_iff.mp satisfied
    rw [if_pos isText]
    exact Search.bind_eq_ok_iff.mpr ⟨found, resolved, Value.meets_of_meets_all held⟩
  · simp at satisfied

theorem has_of_has_all (satisfied : has o .all v argument = .ok true) :
    has o .default v argument = .ok (!argument.asksNothing) := by
  unfold has at satisfied ⊢
  split at satisfied
  · rename_i text isText
    have asks : argument.asksNothing = false := by
      cases argument <;> first | rfl | simp [Value.text?] at isText
    rw [asks]
    exact satisfied
  · rename_i paths noText isArray
    have each : ∀ path ∈ paths, isAt o v path = .ok true :=
      (Search.allM_eq_true_iff paths).mp satisfied
    have asks : argument.asksNothing = paths.isEmpty := by simp only [Value.asksNothing, isArray]
    rw [asks]
    exact Search.anyM_of_forall_true each
  · rename_i expectations noText noArray isMapping
    have each : ∀ entry ∈ expectations, meetsAt o v true entry = .ok true :=
      (Search.allM_eq_true_iff expectations).mp satisfied
    have asks : argument.asksNothing = expectations.any fun entry => entry.2.isEmptyCollection := by
      simp only [Value.asksNothing, noArray, isMapping]
    rw [asks, List.not_any_eq_all_not]
    exact Search.allM_of_answers fun entry member => meetsAt_of_meetsAt_all (each entry member)
  · simp at satisfied

/-- Whether an entry of a tree is a `has` that asks for nothing. -/
def isIdle (entry : Value × Value) : Bool :=
  RuleName.ofValue? entry.1 == some .has && entry.2.asksNothing

theorem judgeRule_mode {name : RuleName} (other : name ≠ .has) (mode mode' : Mode) :
    judgeRule o nested mode v name argument path = judgeRule o nested mode' v name argument path := by
  cases name with
  | has => exact absurd rfl other
  | _ => rfl

theorem outcome_judgeRule_of_all {name : RuleName}
    (inside : ∀ found node mode path path',
      (nested found node mode path).AnsweredBy (nested' found node mode path'))
    (satisfied : (judgeRule o nested .all v name argument path).outcome = .ok true) :
    (judgeRule o nested' .default v name argument path').outcome =
      .ok (!(name == .has && argument.asksNothing)) := by
  by_cases asking : name = .has
  · subst asking
    have held : has o .all v argument = .ok true := Run.outcome_ofExcept_eq_ok_iff.mp satisfied
    exact Run.outcome_ofExcept_eq_ok_iff.mpr (has_of_has_all held)
  · have other : (name == .has) = false := by simpa using asking
    rw [judgeRule_mode asking .all .default] at satisfied
    rw [other, Bool.false_and]
    exact answeredBy_judgeRule inside name argument true satisfied

theorem outcome_judgeEntry_of_all {entry : Value × Value} {result : Option Bool}
    (inside : ∀ found node mode path path',
      (nested found node mode path).AnsweredBy (nested' found node mode path'))
    (answer : (judgeEntry o nested depth .all path v entry).outcome = .ok result)
    (unsettled : result ≠ some false) :
    ∃ result', (judgeEntry o nested' depth' .default path' v entry).outcome = .ok result' ∧
      (result' == some false) = isIdle entry := by
  obtain ⟨key, argument⟩ := entry
  cases named : RuleName.ofValue? key with
  | none =>
    rw [outcome_judgeEntry_of_unknown named] at answer ⊢
    refine ⟨result, answer, ?_⟩
    simpa [isIdle, named] using unsettled
  | some name =>
    rw [outcome_judgeEntry_of_rule named] at answer ⊢
    obtain ⟨b, judged, same⟩ := Search.bind_eq_ok_iff.mp answer
    have holds : b = true := by
      cases b with
      | true => rfl
      | false => exact absurd (Except.ok.inj same).symm unsettled
    rw [holds] at judged
    refine ⟨some (!(name == .has && argument.asksNothing)), ?_, ?_⟩
    · rw [outcome_judgeRule_of_all inside judged]
      rfl
    · simp [isIdle, named]

theorem outcome_judgeEntries_of_all {entries : List (Value × Value)}
    (inside : ∀ found node mode path path',
      (nested found node mode path).AnsweredBy (nested' found node mode path'))
    (satisfied :
      (judgeEntries .all (judgeEntry o nested depth .all path v) entries).outcome = .ok true) :
    (judgeEntries .default (judgeEntry o nested' depth' .default path' v) entries).outcome =
      .ok (!entries.any isIdle) := by
  have each : ∀ entry ∈ entries, ∃ result,
      (judgeEntry o nested depth .all path v entry).outcome = .ok result ∧ result ≠ some false :=
    (outcome_judgeEntries_open_iff entries).mp satisfied
  have answered : (judgeEntries .default (judgeEntry o nested' depth' .default path' v) entries).outcome =
      .ok (entries.any isIdle == false) := by
    refine outcome_judgeEntries_of_answers fun entry member => ?_
    obtain ⟨result, answer, unsettled⟩ := each entry member
    exact outcome_judgeEntry_of_all inside answer unsettled
  rw [answered, beq_false]

end Evaluation

/-- Rules that are satisfied under `all` are answered on their own, and they are satisfied unless a `has`
among them asks for nothing. -/
theorem validate_of_validate_all (table : PredicateTable) (o : Options) (v : Value) {rules : Value}
    {entries : List (Value × Value)} (mapping : rules.entries? = some entries)
    (satisfied : validate table o v (.plain [(.text "all", rules)]) = .ok true) :
    validate table o v rules = .ok (!entries.any Evaluation.isIdle) := by
  have single : (evaluate table o v (.plain [(.text "all", rules)])).outcome =
      (Evaluation.judge table o o.maxDepth v (.ofValue rules) .all "all").outcome :=
    Evaluation.outcome_judge_single .all rules o.maxDepth
  have whole : (Evaluation.judge table o o.maxDepth v (.ofValue rules) .all "all").outcome = .ok true :=
    single.symm.trans (Run.outcome_eq_true_of_verdict satisfied)
  rw [RuleNode.ofValue_of_entries mapping] at whole
  -- Under `all` the rules took a level of those that are left there; on their own they have one more.
  obtain ⟨left, levels⟩ : ∃ left, o.maxDepth = left + 1 := by
    cases levels : o.maxDepth with
    | zero => simp [levels] at whole
    | succ left => exact ⟨left, rfl⟩
  have answered : (evaluate table o v rules).outcome = .ok (!entries.any Evaluation.isIdle) := by
    rw [levels] at whole
    rw [evaluate, RuleNode.ofValue_of_entries mapping]
    refine Evaluation.outcome_judgeEntries_of_all (fun found node mode path path' => ?_) whole
    have more : left ≤ o.maxDepth := by omega
    exact Evaluation.answeredBy_judge more node
  rw [validate, Run.verdict, answered]

/-- A `has` of two paths is satisfied by both of them under `all`, and so by one of them on its own. -/
theorem validate_of_validate_all_of_paths :
    let v := Value.plain [(.text "name", .text "Matt"), (.text "age", .int 35)]
    let entries := [(Value.text "has", Value.list [.text "name", .text "age"]),
      (.text "type", .text "object")]
    let rules := Value.plain entries
    rules.entries? = some entries ∧
      validate Catalog.table {} v (.plain [(.text "all", rules)]) = .ok true ∧
      validate Catalog.table {} v rules = .ok true := by
  intro v entries rules
  have satisfied : validate Catalog.table {} v (.plain [(.text "all", rules)]) = .ok true := rfl
  have mapping : rules.entries? = some entries := rfl
  exact ⟨mapping, satisfied, validate_of_validate_all Catalog.table {} v mapping satisfied⟩

/-- A `has` that expects an empty list holds under `all` and fails on its own, though the rules do not nest
too deeply and both evaluations answer. -/
theorem not_validate_of_validate_all :
    ¬ ∀ (o : Options) (v rules : Value), (∃ entries, rules.entries? = some entries) →
      (∀ level node, rules.StandsAt level node → level + 1 ≤ o.maxDepth) →
      validate Catalog.table o v (.plain [(.text "all", rules)]) = .ok true →
      (∃ b, validate Catalog.table o v rules = .ok b) → validate Catalog.table o v rules = .ok true := by
  intro weaker
  let v := Value.plain [(.text "a", .list [.int 1])]
  let rules := Value.plain [(.text "has", .plain [(.text "a", .list [])])]
  have shallow : ∀ level node, rules.StandsAt level node → level + 1 ≤ ({} : Options).maxDepth := by
    intro level node standing
    cases standing with
    | whole => decide
    | within outer step =>
      have none : rules.innerRules = [] := rfl
      rcases outer.eq_or_within with rfl | ⟨inner, inside, _⟩
      · rw [none] at step
        simp at step
      · rw [none] at inside
        simp at inside
  have fails : validate Catalog.table {} v rules = .ok false := rfl
  have passes := weaker {} v rules ⟨_, rfl⟩ shallow rfl ⟨false, fails⟩
  simp [fails] at passes

end Criteria
