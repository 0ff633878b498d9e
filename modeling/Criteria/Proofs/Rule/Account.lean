import Criteria.Proofs.Rule.Outcome
import Criteria.Proofs.Rule.Telling
import Criteria.Rule.Catalog

set_option autoImplicit false
set_option relaxedAutoImplicit false

/-!
# A report accounts for its verdict

An evaluation that comes to an answer leaves a trace that is `Told`, so that from the trace alone, by
its depths, every result can be checked against the results that it rests on, and the verdict against
the results at depth zero.
-/

namespace Criteria

open Judgement

namespace Judgement.AccountedBy

variable {j : Judgement} {children : List Judgement}

theorem of_leaf (leaf : j.rule ∉ ["any", "all", "not", "match"]) : j.AccountedBy children := by
  constructor <;> intro same <;> simp [same] at leaf

theorem of_any (rule : j.rule = "any") (result : j.result = children.any (·.result)) :
    j.AccountedBy children := by
  constructor <;> intro other
  case any => exact result
  all_goals exact absurd (rule.symm.trans other) (by decide)

theorem of_all (rule : j.rule = "all")
    (isRule : j.argument.IsRule → j.result = children.all (·.result))
    (malformed : ¬ j.argument.IsRule → j.result = false ∧ children = []) :
    j.AccountedBy children := by
  constructor <;> intro other
  case all => exact ⟨isRule, malformed⟩
  all_goals exact absurd (rule.symm.trans other) (by decide)

theorem of_negation (rule : j.rule = "not")
    (isRule : j.argument.IsRule → j.result = !children.all (·.result))
    (malformed : ¬ j.argument.IsRule → j.result = false ∧ children = []) :
    j.AccountedBy children := by
  constructor <;> intro other
  case negation => exact ⟨isRule, malformed⟩
  all_goals exact absurd (rule.symm.trans other) (by decide)

theorem of_properties (rule : j.rule = "match")
    (holds : j.result = true ↔ ∃ entries, j.argument.entries? = some entries ∧
      (∀ e ∈ entries, e.2.IsRule) ∧ ∀ child ∈ children, child.result = true) :
    j.AccountedBy children := by
  constructor <;> intro other
  case properties => exact holds
  all_goals exact absurd (rule.symm.trans other) (by decide)

end Judgement.AccountedBy

/-- Judgements at one depth lead to a verdict: the last one may settle it, those before leave it open. -/
structure Decides (mode : Mode) (roots : List Judgement) (verdict : Bool) : Prop where
  verdict_eq : verdict = if mode = .any then roots.any (·.result) else roots.all (·.result)
  undecided : ∀ j ∈ roots.dropLast, j.result = (mode != .any)

namespace Decides

variable {mode : Mode}

theorem nil : Decides mode [] (mode != .any) := by
  constructor
  · cases mode <;> rfl
  · simp

theorem single {j : Judgement} (settles : j.result = (mode == .any)) :
    Decides mode [j] (mode == .any) := by
  constructor
  · cases mode <;> simp [settles]
  · simp

theorem cons {j : Judgement} {roots : List Judgement} {verdict : Bool}
    (leaves : j.result = (mode != .any)) (decides : Decides mode roots verdict) :
    Decides mode (j :: roots) verdict := by
  constructor
  · rw [decides.verdict_eq]
    cases mode <;> simp [leaves]
  · intro i member
    cases roots with
    | nil => simp at member
    | cons next rest =>
      rw [List.dropLast_cons_of_ne_nil (by simp)] at member
      rcases List.mem_cons.mp member with rfl | later
      · exact leaves
      · exact decides.undecided i later

end Decides

/-- A run tells of a value judged as a rule: what it judged at the depth leads to its answer. -/
def TellsOf (depth : Int) (mode : Mode) (rule : Value) (r : Run Bool) : Prop :=
  ∀ b, r.outcome = .ok b → ∃ roots, Told depth r.trace roots ∧
    (rule.IsRule → Decides mode roots b) ∧ (¬ rule.IsRule → roots = [] ∧ b = false)

namespace Evaluation

variable {table : PredicateTable} {o : Options} {nested : Nested} {depth : Nat} {mode : Mode}
  {path : String} {v rules : Value}

/-- Whatever stands within the given rules is told of at a depth. -/
def Tells (rules : Value) (depth : Int) (nested : Nested) : Prop :=
  ∀ level rule, rules.StandsAt level rule → ∀ v mode path,
    TellsOf depth mode rule (nested v (.ofValue rule) mode path)

theorem told_judgeEntries {depth : Int} {judge : Value × Value → Run (Option Bool)}
    {entries : List (Value × Value)}
    (each : ∀ entry ∈ entries, ∀ result, (judge entry).outcome = .ok result →
      ∃ roots, Told depth (judge entry).trace roots ∧ roots.map (·.result) = result.toList)
    {b : Bool} (answer : (judgeEntries mode judge entries).outcome = .ok b) :
    ∃ roots, Told depth (judgeEntries mode judge entries).trace roots ∧ Decides mode roots b := by
  induction entries with
  | nil =>
    have same : (mode != .any) = b := by simpa [judgeEntries] using answer
    exact ⟨[], .nil depth, same ▸ .nil⟩
  | cons entry rest ih =>
    rw [judgeEntries] at answer ⊢
    obtain ⟨result, first, later⟩ := Run.outcome_bind_eq_ok_iff.mp answer
    obtain ⟨roots, told, results⟩ := each entry (by simp) result first
    have each' := fun e (member : e ∈ rest) => each e (List.mem_cons_of_mem entry member)
    rw [Run.trace_bind_of_ok first]
    cases result with
    | none =>
      have none : roots = [] := by simpa using results
      obtain ⟨rest', toldRest, decides⟩ := ih each' later
      exact ⟨roots ++ rest', told.append toldRest, by simpa [none] using decides⟩
    | some r =>
      obtain ⟨j, rfl, same⟩ : ∃ j, roots = [j] ∧ j.result = r := by
        simpa [List.map_eq_singleton_iff] using results
      by_cases settles : r = (mode == .any)
      · have verdict : b = (mode == .any) := by
          simpa [settles] using later.symm
        refine ⟨[j], ?_, verdict ▸ .single (same.trans settles)⟩
        simpa [settles] using told
      · have leaves : r = (mode != .any) := by cases mode <;> cases r <;> simp_all
        have continues : (judgeEntries mode judge rest).outcome = .ok b := by
          simpa [settles] using later
        obtain ⟨rest', toldRest, decides⟩ := ih each' continues
        refine ⟨[j] ++ rest', ?_, decides.cons (same.trans leaves)⟩
        simpa [settles] using told.append toldRest

theorem told_judgeProperty (tells : Tells rules depth nested) {entry : Value × Value} {level : Nat}
    (inside : rules.StandsAt level entry.2) :
    TellsOf depth .default entry.2 (judgeProperty o nested v path entry) := by
  intro b answer
  unfold judgeProperty at answer ⊢
  obtain ⟨found, resolved, later⟩ := Run.outcome_bind_eq_ok_iff.mp answer
  rw [Run.trace_bind_of_ok resolved, Run.trace_ofExcept, List.nil_append]
  exact tells level _ inside found .default _ b later

theorem told_judgeProperties (tells : Tells rules depth nested) {entries : List (Value × Value)}
    (inside : ∀ e ∈ entries, ∃ level, rules.StandsAt level e.2) {b : Bool}
    (answer : (judgeProperties o nested v path entries).outcome = .ok b) :
    ∃ roots, Told depth (judgeProperties o nested v path entries).trace roots ∧
      (b = true ↔ (∀ e ∈ entries, e.2.IsRule) ∧ ∀ j ∈ roots, j.result = true) := by
  induction entries generalizing b with
  | nil =>
    have holds : b = true := by simpa [judgeProperties] using answer.symm
    exact ⟨[], .nil _, by simp [holds]⟩
  | cons entry rest ih =>
    rw [judgeProperties_cons] at answer ⊢
    obtain ⟨result, first, later⟩ := Run.outcome_bind_eq_ok_iff.mp answer
    obtain ⟨level, standing⟩ := inside entry (by simp)
    obtain ⟨roots, told, decides, malformed⟩ := told_judgeProperty tells standing result first
    rw [Run.trace_bind_of_ok first]
    cases result with
    | false =>
      have fails : b = false := by simpa using later.symm
      refine ⟨roots, ?_, ?_⟩
      · simpa using told
      · rw [fails]
        simp only [Bool.false_eq_true, false_iff, not_and]
        intro allRules allHold
        -- The first entry failed, so it is no rule or something judged for it failed.
        have all := (decides (allRules entry (by simp))).verdict_eq
        have holds : roots.all (·.result) = true := by simpa using allHold
        simp [holds] at all
    | true =>
      have rule : entry.2.IsRule := by
        by_contra notRule
        exact absurd (malformed notRule).2 (by simp)
      have all : ∀ j ∈ roots, j.result = true := by
        have holds := (decides rule).verdict_eq
        simpa using holds.symm
      obtain ⟨rest', toldRest, holdsIff⟩ :=
        ih (fun e member => inside e (List.mem_cons_of_mem entry member)) later
      refine ⟨roots ++ rest', told.append toldRest, ?_⟩
      rw [holdsIff]
      constructor
      · rintro ⟨restRules, restHold⟩
        exact ⟨List.forall_mem_cons.mpr ⟨rule, restRules⟩,
          List.forall_mem_append.mpr ⟨all, restHold⟩⟩
      · rintro ⟨allRules, allHold⟩
        exact ⟨(List.forall_mem_cons.mp allRules).2, (List.forall_mem_append.mp allHold).2⟩

private theorem told_negation (tells : Tells rules (depth + 1) nested) {argument : Value}
    {level : Nat} (inside : rules.StandsAt level argument) {b : Bool}
    (answer : (judgeNegation nested v argument path).outcome = .ok b) :
    ∃ children, Told (depth + 1) (judgeNegation nested v argument path).trace children ∧
      (argument.IsRule → b = !children.all (·.result)) ∧
      (¬ argument.IsRule → b = false ∧ children = []) := by
  by_cases rule : argument.IsRule
  · rw [judgeNegation_of_isRule rule] at answer ⊢
    obtain ⟨inner, first, later⟩ := Run.outcome_bind_eq_ok_iff.mp answer
    obtain ⟨children, told, decides, _⟩ := tells level _ inside v .default path inner first
    have verdict := (decides rule).verdict_eq
    have negated : b = !inner := by simpa using later.symm
    refine ⟨children, ?_, ?_, ?_⟩
    · rw [Run.trace_bind_of_ok first]
      simpa using told
    · intro _
      rw [negated, verdict]
      rfl
    · exact fun malformed => absurd rule malformed
  · have fails : judgeNegation nested v argument path = pure false := by
      simp only [judgeNegation, RuleNode.ofValue_of_not_isRule rule]
    rw [fails] at answer ⊢
    have verdict : b = false := by simpa using answer.symm
    exact ⟨[], .nil _, fun isRule => absurd isRule rule, fun _ => ⟨verdict, rfl⟩⟩

private theorem told_properties (tells : Tells rules (depth + 1) nested) {argument : Value}
    (inside : ∀ entries, argument.entries? = some entries →
      ∀ e ∈ entries, ∃ level, rules.StandsAt level e.2) {b : Bool}
    (answer : (judgeRule o nested mode v .properties argument path).outcome = .ok b) :
    ∃ children, Told (depth + 1) (judgeRule o nested mode v .properties argument path).trace children ∧
      (b = true ↔ ∃ entries, argument.entries? = some entries ∧
        (∀ e ∈ entries, e.2.IsRule) ∧ ∀ child ∈ children, child.result = true) := by
  unfold judgeRule at answer ⊢
  cases mapping : argument.entries? with
  | none =>
    simp only [mapping] at answer ⊢
    have fails : b = false := by simpa using answer.symm
    exact ⟨[], .nil _, by simp [fails]⟩
  | some entries =>
    simp only [mapping] at answer ⊢
    obtain ⟨children, told, holds⟩ := told_judgeProperties tells (inside entries mapping) answer
    exact ⟨children, told, by simpa using holds⟩

theorem told_judgeRule (tells : Tells rules (depth + 1) nested) {level : Nat}
    {node key argument : Value} {entries : List (Value × Value)} {name : RuleName}
    (standing : rules.StandsAt level node)
    (mapping : node.entries? = some entries) (member : (key, argument) ∈ entries)
    (named : RuleName.ofValue? key = some name) {b : Bool}
    (answer : (judgeRule o nested mode v name argument path).outcome = .ok b) :
    ∃ children, Told (depth + 1) (judgeRule o nested mode v name argument path).trace children ∧
      ∀ j : Judgement, j.rule = name.name → j.argument = argument → j.result = b →
        j.AccountedBy children := by
  have inside (nesting : name ∈ [RuleName.any, .all, .negation]) :
      rules.StandsAt (level + 1) argument :=
    .within standing (Value.argument_mem_innerRules mapping member named nesting)
  have leaf (notNesting : name.name ∉ ["any", "all", "not", "match"])
      (quiet : (judgeRule o nested mode v name argument path).trace = []) :
      ∃ children, Told (depth + 1) (judgeRule o nested mode v name argument path).trace children ∧
        ∀ j : Judgement, j.rule = name.name → j.argument = argument → j.result = b →
          j.AccountedBy children := by
    rw [quiet]
    exact ⟨[], .nil _, fun j rule _ _ => .of_leaf (rule ▸ notNesting)⟩
  cases name with
  | type => exact leaf (by decide) (Run.trace_ofExcept _)
  | has => exact leaf (by decide) (Run.trace_ofExcept _)
  | includesAny => exact leaf (by decide) (Run.trace_ofExcept _)
  | includesAll => exact leaf (by decide) (Run.trace_ofExcept _)
  | comparison c => exact leaf (by cases c <;> decide) (Run.trace_ofExcept _)
  | any =>
    obtain ⟨children, told, decides, malformed⟩ := tells _ _ (inside (by decide)) v .any path b answer
    refine ⟨children, told, ?_⟩
    rintro j rule rfl rfl
    apply AccountedBy.of_any rule
    by_cases isRule : j.argument.IsRule
    · simpa using (decides isRule).verdict_eq
    · rw [(malformed isRule).1, (malformed isRule).2]
      rfl
  | all =>
    obtain ⟨children, told, decides, malformed⟩ := tells _ _ (inside (by decide)) v .all path b answer
    refine ⟨children, told, ?_⟩
    rintro j rule rfl rfl
    apply AccountedBy.of_all rule
    · intro isRule
      simpa using (decides isRule).verdict_eq
    · intro isNotRule
      exact (malformed isNotRule).symm
  | negation =>
    obtain ⟨children, told, isRule, malformed⟩ := told_negation tells (inside (by decide)) answer
    refine ⟨children, told, ?_⟩
    rintro j rule rfl rfl
    exact .of_negation rule isRule malformed
  | properties =>
    have within : ∀ asked, argument.entries? = some asked →
        ∀ e ∈ asked, ∃ level, rules.StandsAt level e.2 := by
      rintro asked properties ⟨property, inner⟩ held
      exact ⟨level + 1, .within standing
        (Value.property_mem_innerRules mapping member named properties held)⟩
    obtain ⟨children, told, holds⟩ := told_properties tells within answer
    refine ⟨children, told, ?_⟩
    rintro j rule rfl rfl
    exact .of_properties rule holds

theorem told_judgeEntry (tells : Tells rules (depth + 1) nested) (keys : rules.HasTextKeys)
    {level : Nat} {node : Value} {entries : List (Value × Value)}
    (standing : rules.StandsAt level node) (mapping : node.entries? = some entries)
    {entry : Value × Value} (member : entry ∈ entries) {result : Option Bool}
    (answer : (judgeEntry o nested depth mode path v entry).outcome = .ok result) :
    ∃ roots, Told depth (judgeEntry o nested depth mode path v entry).trace roots ∧
      roots.map (·.result) = result.toList := by
  obtain ⟨key, argument⟩ := entry
  cases named : RuleName.ofValue? key with
  | none =>
    rw [judgeEntry_of_unknown named] at answer ⊢
    by_cases strict : o.strict = true
    · rw [if_pos strict] at answer ⊢
      have fails : result = some false := (Except.ok.inj answer).symm
      let j : Judgement := ⟨rulePath path key, key.display, argument, v, false, depth⟩
      -- Its key is a text, so it cannot be shown by the name of a rule that it does not name.
      have unnamed : j.rule ∉ ["any", "all", "not", "match"] := by
        have text := keys.isText standing mapping member
        cases key <;> simp only [Value.isText, Bool.false_eq_true] at text
        rename_i name
        intro nesting
        change name ∈ _ at nesting
        simp only [List.mem_cons, List.not_mem_nil, or_false] at nesting
        rcases nesting with rfl | rfl | rfl | rfl <;> exact absurd named (by decide)
      exact ⟨[j], .single (.nil _) rfl (.of_leaf unnamed), by simp [fails, j]⟩
    · rw [if_neg strict] at answer ⊢
      have passed : result = none := (Except.ok.inj answer).symm
      exact ⟨[], .nil _, by simp [passed]⟩
  | some name =>
    rw [judgeEntry_of_rule named] at answer ⊢
    obtain ⟨b, judged, later⟩ := Run.outcome_bind_eq_ok_iff.mp answer
    have same : result = some b := (Except.ok.inj later).symm
    obtain ⟨children, told, accounts⟩ := told_judgeRule tells standing mapping member named judged
    have rule : key.display = name.name := by
      rw [RuleName.eq_text_of_ofValue? named]
      rfl
    let j : Judgement := ⟨rulePath path key, key.display, argument, v, b, depth⟩
    refine ⟨[j], ?_, by simp [same, j]⟩
    rw [Run.trace_bind_of_ok judged]
    exact .single told rfl (accounts j rule rfl rfl)

theorem tells_judgeNode (tells : Tells rules (depth + 1) nested) (keys : rules.HasTextKeys) :
    Tells rules depth (judgeNode table o nested depth) := by
  intro level rule standing v mode path b answer
  rcases RuleNode.ofValue_cases rule with ⟨entries, mapping, node⟩ | ⟨f, rfl, node⟩ | ⟨notRule, node⟩
  · rw [node] at answer ⊢
    have each : ∀ entry ∈ entries, ∀ result,
        (judgeEntry o nested depth mode path v entry).outcome = .ok result → _ :=
      fun entry member result => told_judgeEntry tells keys standing mapping member
    obtain ⟨roots, told, decides⟩ := told_judgeEntries each answer
    exact ⟨roots, told, fun _ => decides, fun notRule => absurd (.inl ⟨entries, mapping⟩) notRule⟩
  · obtain ⟨result, judged, later⟩ := Run.outcome_bind_eq_ok_iff.mp answer
    have same : b = result := (Except.ok.inj later).symm
    let j : Judgement := ⟨shownPath path, "predicate", .function f, v, result, depth⟩
    have accounted : j.AccountedBy [] := .of_leaf (by simp [j])
    have run : (judgeNode table o nested depth v (.predicate f) mode path).trace = [j] := by
      refine (Run.trace_bind_of_ok judged _).trans ?_
      simp only [monadLift_self, Predicate.trace_judge]
      rfl
    refine ⟨[j], ?_, fun _ => ?_, fun notRule => absurd (.inr ⟨f, rfl⟩) notRule⟩
    · rw [node, run]
      exact .single (.nil _) rfl accounted
    · constructor
      · cases mode <;> simp [same, j]
      · simp
  · rw [node] at answer ⊢
    have fails : b = false := (Except.ok.inj answer).symm
    exact ⟨[], .nil _, fun isRule => absurd isRule notRule, fun _ => ⟨rfl, fails⟩⟩

theorem tells_judge (keys : rules.HasTextKeys) (left : Nat) (within : left ≤ o.maxDepth + 1) :
    Tells rules (o.maxDepth + 1 - left : Nat) (judge table o left) := by
  induction left with
  | zero =>
    intro level rule standing v mode path b answer
    simp [judge_zero, Run.outcome_bind_eq_ok_iff, Run.stop] at answer
  | succ left ih =>
    have reached : o.maxDepth + 1 - (left + 1) = o.maxDepth - left := by omega
    have deeper : ((o.maxDepth + 1 - left : Nat) : Int) = (o.maxDepth - left : Nat) + 1 := by omega
    rw [reached]
    exact tells_judgeNode (deeper ▸ ih (by omega)) keys

end Evaluation

/-- A report that was not cut short accounts for its verdict: rules that are none leave no trace and
fail; otherwise the verdict is that of the judgements at depth zero, of which only the last may fail
and with which the trace ends; and every judgement agrees with its children. -/
theorem explain_accounts (table : PredicateTable) (o : Options) (v rules : Value) (report : Report)
    (keys : rules.HasTextKeys) (reported : explain table o v rules = .ok report)
    (uncut : (evaluate table o v rules).outcome ≠ .error .tooDeep) :
    (¬ rules.IsRule → report.trace = [] ∧ report.result = false) ∧
    (rules.IsRule →
      report.result = (atDepth 0 report.trace).all (·.result) ∧
      (∀ j ∈ (atDepth 0 report.trace).dropLast, j.result = true) ∧
      ∀ j, report.trace.getLast? = some j → j.depth = 0) ∧
    ∀ (i : Nat) (j : Judgement), report.trace[i]? = some j →
      j.AccountedBy (children report.trace i j.depth) := by
  have answer : ∃ b, (evaluate table o v rules).outcome = .ok b ∧
      report = ⟨b, (evaluate table o v rules).trace⟩ := by
    unfold explain Run.verdict at reported
    cases outcome : (evaluate table o v rules).outcome with
    | ok b => exact ⟨b, rfl, by simpa [outcome, Except.map, eq_comm] using reported⟩
    | error s =>
      cases s with
      | tooDeep => exact absurd outcome uncut
      | fault f => simp [outcome, Except.map] at reported
  obtain ⟨b, outcome, rfl⟩ := answer
  have tells : Evaluation.Tells rules (o.maxDepth + 1 - (o.maxDepth + 1) : Nat)
      (Evaluation.judge table o (o.maxDepth + 1)) :=
    Evaluation.tells_judge keys (o.maxDepth + 1) (Nat.le_refl _)
  obtain ⟨roots, told, decides, malformed⟩ := tells 0 rules .whole v .default "" b outcome
  have start : ((o.maxDepth + 1 - (o.maxDepth + 1) : Nat) : Int) = 0 := by omega
  rw [start] at told
  change Told 0 (evaluate table o v rules).trace roots at told
  refine ⟨?_, ?_, told.accountedBy_children⟩
  · intro notRule
    obtain ⟨rfl, fails⟩ := malformed notRule
    exact ⟨told.eq_nil, fails⟩
  · intro isRule
    dsimp only
    rw [told.atDepth_eq]
    obtain ⟨verdict, undecided⟩ := decides isRule
    exact ⟨verdict, undecided, fun j last => told.depth_of_getLast? last⟩

/-- An age below the limit: two judgements of the age lead to the one of `match`. -/
theorem explain_accounts_of_age :
    let v := Value.plain [(.text "age", .int 12)]
    let limit := Value.plain [(.text "type", .text "number"), (.text "gte", .int 18)]
    let rules := Value.plain [(.text "match", .plain [(.text "age", limit)])]
    rules.HasTextKeys ∧ (evaluate Catalog.table {} v rules).outcome ≠ .error .tooDeep ∧
      ∃ report, explain Catalog.table {} v rules = .ok report ∧
        report.trace.map (·.depth) = [1, 1, 0] ∧
        report.result = (atDepth 0 report.trace).all (·.result) ∧
        ∀ (i : Nat) (j : Judgement), report.trace[i]? = some j →
          j.AccountedBy (children report.trace i j.depth) := by
  intro v limit rules
  have keys : rules.HasTextKeys := by
    refine .of_innerRules rfl ?_
    change ∀ inner ∈ [limit], Value.HasTextKeys inner
    simp only [List.mem_singleton, forall_eq]
    refine .of_innerRules rfl ?_
    change ∀ inner ∈ [], Value.HasTextKeys inner
    simp
  have answer : (evaluate Catalog.table {} v rules).outcome = .ok false := rfl
  have uncut : (evaluate Catalog.table {} v rules).outcome ≠ .error .tooDeep := by simp [answer]
  refine ⟨keys, uncut, _, rfl, rfl, ?_⟩
  obtain ⟨_, verdict, accounts⟩ := explain_accounts Catalog.table {} v rules _ keys rfl uncut
  exact ⟨(verdict (.inl ⟨_, rfl⟩)).1, accounts⟩

end Criteria
