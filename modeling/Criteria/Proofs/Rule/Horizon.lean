import Criteria.Proofs.Rule.Outcome
import Criteria.Rule.Catalog
import Mathlib.Data.List.Forall2

set_option autoImplicit false
set_option relaxedAutoImplicit false

/-!
# Below the depth limit

Of what stands one level deeper than the limit an evaluation only sees whether it is a rule, and nothing
at all of what stands deeper still. Rules can thus be cut at that level without being judged otherwise,
also rules that hold themselves and so go on without end.
-/

namespace Criteria

namespace Value

/-- Two entries of a tree are the same but for the rules inside, which `Inside` relates. -/
inductive EntryAlike (Inside : Value → Value → Prop) : Value × Value → Value × Value → Prop
  | same (entry : Value × Value) : EntryAlike Inside entry entry
  | nesting {key argument argument' : Value} {name : RuleName} :
      RuleName.ofValue? key = some name → name ∈ [RuleName.any, .all, .negation] →
      Inside argument argument' → EntryAlike Inside (key, argument) (key, argument')
  | properties {key argument argument' : Value} {asked asked' : List (Value × Value)} :
      RuleName.ofValue? key = some .properties → argument.entries? = some asked →
      argument'.entries? = some asked' →
      List.Forall₂ (fun e e' => e.1 = e'.1 ∧ Inside e.2 e'.2) asked asked' →
      EntryAlike Inside (key, argument) (key, argument')

/-- Two rules coincide above a level, and at that level there are rules in the same places. -/
def AlikeTo : Nat → Value → Value → Prop
  | 0, rules, rules' => rules.IsRule ↔ rules'.IsRule
  | level + 1, rules, rules' => rules = rules' ∨ ∃ entries entries',
      rules.entries? = some entries ∧ rules'.entries? = some entries' ∧
      List.Forall₂ (EntryAlike (AlikeTo level)) entries entries'

theorem isRule_iff_of_alikeTo {level : Nat} {rules rules' : Value} (alike : rules.AlikeTo level rules') :
    rules.IsRule ↔ rules'.IsRule := by
  cases level with
  | zero => exact alike
  | succ level =>
    rcases alike with rfl | ⟨entries, entries', mapping, mapping', _⟩
    · exact Iff.rfl
    · exact iff_of_true (.inl ⟨entries, mapping⟩) (.inl ⟨entries', mapping'⟩)

def overInner (inside : Value → Value) (entry : Value × Value) : Value × Value :=
  match RuleName.ofValue? entry.1, entry.2.entries? with
  | some .any, _ | some .all, _ | some .negation, _ => (entry.1, inside entry.2)
  | some .properties, some asked => (entry.1, .plain (asked.map fun e => (e.1, inside e.2)))
  | _, _ => entry

/-- Rules cut at a level: what stands there is a tree without entries if it is a rule, and otherwise
nothing. -/
def cutAt : Nat → Value → Value
  | 0, rules =>
    match RuleNode.ofValue rules with
    | .malformed _ => .null
    | _ => .plain []
  | level + 1, rules =>
    match rules.entries? with
    | some entries => .plain (entries.map (overInner (cutAt level)))
    | none => rules

theorem entryAlike_overInner {Inside : Value → Value → Prop} {inside : Value → Value}
    (related : ∀ rules, Inside rules (inside rules)) (entry : Value × Value) :
    EntryAlike Inside entry (overInner inside entry) := by
  obtain ⟨key, argument⟩ := entry
  unfold overInner
  split
  · rename_i named
    exact .nesting named (by simp) (related argument)
  · rename_i named
    exact .nesting named (by simp) (related argument)
  · rename_i named
    exact .nesting named (by simp) (related argument)
  · rename_i asked named mapping
    refine .properties named mapping rfl ?_
    rw [List.forall₂_map_right_iff, List.forall₂_same]
    intro e _
    exact ⟨rfl, related e.2⟩
  · exact .same _

theorem alikeTo_cutAt (level : Nat) (rules : Value) : rules.AlikeTo level (rules.cutAt level) := by
  induction level generalizing rules with
  | zero =>
    unfold AlikeTo cutAt
    rcases RuleNode.ofValue_cases rules with
      ⟨entries, mapping, node⟩ | ⟨f, called, node⟩ | ⟨malformed, node⟩
    · rw [node]
      exact iff_of_true (.inl ⟨entries, mapping⟩) (.inl ⟨[], rfl⟩)
    · rw [node]
      exact iff_of_true (.inr ⟨f, called⟩) (.inl ⟨[], rfl⟩)
    · rw [node]
      refine iff_of_false malformed ?_
      rintro (⟨entries, mapping⟩ | ⟨f, called⟩)
      · simp [entries?, untie] at mapping
      · simp at called
  | succ level ih =>
    unfold AlikeTo cutAt
    cases mapping : rules.entries? with
    | none => exact .inl rfl
    | some entries =>
      refine .inr ⟨entries, _, rfl, rfl, ?_⟩
      rw [List.forall₂_map_right_iff, List.forall₂_same]
      intro entry _
      exact entryAlike_overInner ih entry

theorem innerRules_overInner {rules : Value} {entries : List (Value × Value)}
    (mapping : rules.entries? = some entries) (inside : Value → Value) :
    (plain (entries.map (overInner inside))).innerRules = rules.innerRules.map inside := by
  unfold innerRules
  rw [entries?_plain, mapping, Option.getD_some, Option.getD_some, List.flatMap_map, List.map_flatMap]
  congr 1
  funext entry
  obtain ⟨key, argument⟩ := entry
  cases named : RuleName.ofValue? key with
  | none => simp [overInner, named]
  | some name =>
    cases name with
    | properties =>
      cases asked : argument.entries? with
      | none => simp [overInner, named, asked]
      | some entries' => simp [overInner, named, asked]
    | _ => simp [overInner, named]

theorem innerRules_cutAt (level : Nat) (rules : Value) :
    (rules.cutAt (level + 1)).innerRules = rules.innerRules.map (cutAt level) := by
  unfold cutAt
  cases mapping : rules.entries? with
  | none => simp [innerRules, mapping]
  | some entries => exact innerRules_overInner mapping (cutAt level)

theorem level_le_of_standsAt_cutAt {level deeper : Nat} {rules node : Value}
    (standing : (rules.cutAt level).StandsAt deeper node) : deeper ≤ level := by
  induction level generalizing deeper rules with
  | zero =>
    have nothing_inside : (rules.cutAt 0).innerRules = [] := by
      unfold cutAt
      split <;> rfl
    rcases standing.eq_zero_or_succ with ⟨rfl, _⟩ | ⟨_, _, inner, member, _⟩
    · exact Nat.le_refl 0
    · rw [nothing_inside] at member
      simp at member
  | succ level ih =>
    rcases standing.eq_zero_or_succ with ⟨rfl, _⟩ | ⟨less, rfl, inner, member, inside⟩
    · exact Nat.zero_le _
    · rw [innerRules_cutAt] at member
      obtain ⟨whole, _, rfl⟩ := List.mem_map.mp member
      exact Nat.succ_le_succ (ih inside)

end Value

namespace Evaluation

variable {table : PredicateTable} {o : Options} {nested : Nested} {depth : Nat} {mode : Mode}
  {path : String} {v : Value} {Inside : Value → Value → Prop}

theorem outcome_judgeEntries_congr {judge judge' : Value × Value → Run (Option Bool)}
    {entries entries' : List (Value × Value)}
    (same : List.Forall₂ (fun e e' => (judge e).outcome = (judge' e').outcome) entries entries') :
    (judgeEntries mode judge entries).outcome = (judgeEntries mode judge' entries').outcome := by
  induction same with
  | nil => rfl
  | cons here _ ih =>
    rw [judgeEntries, judgeEntries, Run.outcome_bind, Run.outcome_bind, here]
    congr 1
    funext result
    cases result with
    | none => exact ih
    | some b =>
      by_cases settles : (b == (mode == .any)) = true
      · simp only [settles, if_true]
      · simp only [settles]
        exact ih

section Inside

variable (status : ∀ a b, Inside a b → (a.IsRule ↔ b.IsRule))
  (inside : ∀ a b, Inside a b → ∀ found mode path,
    (nested found (.ofValue a) mode path).outcome = (nested found (.ofValue b) mode path).outcome)

include inside in
theorem outcome_judgeProperties_congr {asked asked' : List (Value × Value)}
    (alike : List.Forall₂ (fun e e' => e.1 = e'.1 ∧ Inside e.2 e'.2) asked asked') :
    (judgeProperties o nested v path asked).outcome =
      (judgeProperties o nested v path asked').outcome := by
  induction alike with
  | nil => rfl
  | @cons e e' rest rest' here _ ih =>
    obtain ⟨sameProperty, within⟩ := here
    have first : (judgeProperty o nested v path e).outcome =
        (judgeProperty o nested v path e').outcome := by
      unfold judgeProperty
      rw [sameProperty, Run.outcome_bind, Run.outcome_bind]
      congr 1
      funext found
      exact inside e.2 e'.2 within found .default _
    rw [judgeProperties_cons, judgeProperties_cons, Run.outcome_bind, Run.outcome_bind, first]
    congr 1
    funext result
    cases result with
    | true => exact ih
    | false => rfl

include status inside

theorem outcome_judgeNegation_congr {argument argument' : Value} (within : Inside argument argument') :
    (judgeNegation nested v argument path).outcome =
      (judgeNegation nested v argument' path).outcome := by
  by_cases rule : argument.IsRule
  · have rule' : argument'.IsRule := (status argument argument' within).mp rule
    rw [judgeNegation_of_isRule rule, judgeNegation_of_isRule rule', Run.outcome_bind, Run.outcome_bind,
      inside argument argument' within v .default path]
  · have malformed : ¬ argument'.IsRule := fun rule' => rule ((status argument argument' within).mpr rule')
    unfold judgeNegation
    rw [RuleNode.ofValue_of_not_isRule rule, RuleNode.ofValue_of_not_isRule malformed]

theorem outcome_judgeEntry_congr {entry entry' : Value × Value}
    (alike : Value.EntryAlike Inside entry entry') :
    (judgeEntry o nested depth mode path v entry).outcome =
      (judgeEntry o nested depth mode path v entry').outcome := by
  cases alike with
  | same => rfl
  | @nesting key argument argument' name named nesting within =>
    rw [outcome_judgeEntry_of_rule named, outcome_judgeEntry_of_rule named]
    congr 1
    simp only [List.mem_cons, List.not_mem_nil, or_false] at nesting
    rcases nesting with rfl | rfl | rfl
    · exact inside argument argument' within v .any _
    · exact inside argument argument' within v .all _
    · exact outcome_judgeNegation_congr status inside within
  | properties named mapping mapping' matched =>
    rw [outcome_judgeEntry_of_rule named, outcome_judgeEntry_of_rule named]
    congr 1
    simp only [judgeRule, mapping, mapping']
    exact outcome_judgeProperties_congr inside matched

end Inside

theorem outcome_judge_of_alikeTo {left : Nat} {rules rules' : Value} (alike : rules.AlikeTo left rules') :
    (judge table o left v (.ofValue rules) mode path).outcome =
      (judge table o left v (.ofValue rules') mode path).outcome := by
  induction left generalizing v rules rules' mode path with
  | zero => rfl
  | succ left ih =>
    rcases alike with rfl | ⟨entries, entries', mapping, mapping', matched⟩
    · rfl
    · rw [RuleNode.ofValue_of_entries mapping, RuleNode.ofValue_of_entries mapping']
      apply outcome_judgeEntries_congr
      refine matched.imp fun entry entry' alike => ?_
      have status (a b : Value) (within : a.AlikeTo left b) : a.IsRule ↔ b.IsRule :=
        Value.isRule_iff_of_alikeTo within
      apply outcome_judgeEntry_congr status _ alike
      intro a b within found mode path
      exact ih within

end Evaluation

/-- An evaluation does not look below its depth limit: rules that coincide down to it, with rules in the
same places one level deeper, come to the same outcome, be it an answer, a fault or that they nest too
deeply. So any rules, also those that hold themselves, are judged as rules of finite depth are. -/
theorem evaluate_horizon (table : PredicateTable) (o : Options) (v rules : Value) :
    (∀ rules', rules.AlikeTo (o.maxDepth + 1) rules' →
      (evaluate table o v rules').outcome = (evaluate table o v rules).outcome) ∧
    (evaluate table o v (rules.cutAt (o.maxDepth + 1))).outcome = (evaluate table o v rules).outcome ∧
    ∀ level node, (rules.cutAt (o.maxDepth + 1)).StandsAt level node → level ≤ o.maxDepth + 1 := by
  have same : ∀ rules', rules.AlikeTo (o.maxDepth + 1) rules' →
      (evaluate table o v rules').outcome = (evaluate table o v rules).outcome :=
    fun rules' alike => (Evaluation.outcome_judge_of_alikeTo alike).symm
  refine ⟨same, same _ (Value.alikeTo_cutAt _ rules), ?_⟩
  intro level node standing
  exact Value.level_le_of_standsAt_cutAt standing

/-- Rules that deny themselves nest without end, and other ones that deny only three times are the same to
an evaluation that is stopped at the third level. -/
theorem evaluate_horizon_of_denial :
    let v := Value.text "Matt"
    let test := (Value.text "type", Value.text "string")
    let rules := Value.knot [.mapping .plain [test, (.text "not", .link 0)]] 0
    let deny (inner : Value) := Value.plain [test, (.text "not", inner)]
    let rules' := deny (deny (deny (.function (.builtin "len"))))
    let o : Options := { maxDepth := 2 }
    (∀ level, rules.StandsAt level rules) ∧ rules.AlikeTo (o.maxDepth + 1) rules' ∧
      (evaluate Catalog.table o v rules').outcome = (evaluate Catalog.table o v rules).outcome ∧
      (evaluate Catalog.table o v rules).outcome = .error .tooDeep := by
  intro v test rules deny rules' o
  have mapping : rules.entries? = some [test, (.text "not", rules)] := rfl
  have denied : (Value.text "not", rules) ∈ [test, (Value.text "not", rules)] := by simp
  have inner : rules ∈ rules.innerRules :=
    Value.argument_mem_innerRules mapping denied rfl (by simp)
  have endless : ∀ level, rules.StandsAt level rules := by
    intro level
    induction level with
    | zero => exact .whole
    | succ level ih => exact ih.within inner
  have deeper {level : Nat} {inner : Value} (alike : rules.AlikeTo level inner) :
      rules.AlikeTo (level + 1) (deny inner) :=
    .inr ⟨_, _, mapping, rfl, .cons (.same test) (.cons (.nesting rfl (by simp) alike) .nil)⟩
  have last : rules.AlikeTo 0 (.function (.builtin "len")) :=
    iff_of_true (.inl ⟨_, mapping⟩) (.inr ⟨_, rfl⟩)
  have alike : rules.AlikeTo (o.maxDepth + 1) rules' := deeper (deeper (deeper last))
  exact ⟨endless, alike, (evaluate_horizon Catalog.table o v rules).1 rules' alike, rfl⟩

end Criteria
