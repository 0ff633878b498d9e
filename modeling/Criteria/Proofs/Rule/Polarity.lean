import Criteria.Proofs.Rule.Congruence
import Criteria.Rule.Catalog
import Mathlib.Algebra.Ring.Parity
import Mathlib.Data.List.Basic

set_option autoImplicit false
set_option relaxedAutoImplicit false

/-!
# Unknown names and negations

Where options are strict an unknown name fails, and otherwise it is passed over. Rules around it then ask
for more, unless a negation turns that around; under `any` it makes no difference. So strict options only
ever turn a verdict one way where all unknown names stand under an even number of negations, and the
other way where all stand under an odd number.
-/

namespace Criteria

namespace Value

/-- A rule stands in rules with a number of negations around it. -/
inductive StandsUnder (rules : Value) : Nat → Value → Prop
  | whole : StandsUnder rules 0 rules
  | nesting {count : Nat} {outer key argument : Value} {entries : List (Value × Value)}
      {name : RuleName} :
      StandsUnder rules count outer → outer.entries? = some entries → (key, argument) ∈ entries →
      RuleName.ofValue? key = some name → name ∈ [RuleName.any, .all] →
      StandsUnder rules count argument
  | negation {count : Nat} {outer key argument : Value} {entries : List (Value × Value)} :
      StandsUnder rules count outer → outer.entries? = some entries → (key, argument) ∈ entries →
      RuleName.ofValue? key = some .negation → StandsUnder rules (count + 1) argument
  | property {count : Nat} {outer key argument property inner : Value}
      {entries asked : List (Value × Value)} :
      StandsUnder rules count outer → outer.entries? = some entries → (key, argument) ∈ entries →
      RuleName.ofValue? key = some .properties → argument.entries? = some asked →
      (property, inner) ∈ asked → StandsUnder rules count inner

/-- Whether a rule is a tree with an unknown name, not looking further in. -/
def HasUnknownName (node : Value) : Prop :=
  ∃ entries, node.entries? = some entries ∧ ∃ entry ∈ entries, RuleName.ofValue? entry.1 = none

end Value

/-- Of two options the first ones are at least as strict under an even number of negations, and the
second ones under an odd number. -/
def Options.StricterUnder (o o' : Options) (count : Nat) : Prop :=
  if Even count then o'.strict = true → o.strict = true else o.strict = true → o'.strict = true

theorem Options.stricterUnder_succ {o o' : Options} {count : Nat} :
    o'.StricterUnder o (count + 1) ↔ o.StricterUnder o' count := by
  unfold Options.StricterUnder
  by_cases even : Even count
  · have odd : ¬ Even (count + 1) := by simpa [Nat.even_add_one] using even
    rw [if_neg odd, if_pos even]
  · have next : Even (count + 1) := Nat.even_add_one.mpr even
    rw [if_pos next, if_neg even]

/-- Where the first of two runs says yes, the second one does not say no. -/
def Run.Upholds (r r' : Run Bool) : Prop := r.outcome = .ok true → r'.outcome ≠ .ok false

namespace Run.Upholds

variable {r r' : Run Bool}

theorem of_outcome_eq (same : r.outcome = r'.outcome) : r.Upholds r' := by
  intro yes no
  rw [← same, yes] at no
  simp at no

theorem opposite (upholds : r'.Upholds r) :
    Run.Upholds (do return !(← r)) (do return !(← r')) := by
  intro yes no
  obtain ⟨b, answer, turned⟩ := outcome_bind_eq_ok_iff.mp yes
  obtain ⟨b', answer', turned'⟩ := outcome_bind_eq_ok_iff.mp no
  have isFalse : b = false := by simpa using turned
  have isTrue : b' = true := by simpa using turned'
  rw [isFalse] at answer
  rw [isTrue] at answer'
  exact upholds answer' answer

end Run.Upholds

namespace Evaluation

variable {table : PredicateTable} {o o' : Options} {nested nested' : Nested} {depth : Nat}
  {mode : Mode} {path : String} {v rules node : Value} {count : Nat}

theorem upholds_judgeEntries {judge judge' : Value × Value → Run (Option Bool)}
    {entries : List (Value × Value)}
    (holds : ∀ entry ∈ entries, (judge entry).outcome = .ok (some true) →
      ∀ result, (judge' entry).outcome = .ok result → result = some true)
    (passes : ∀ entry ∈ entries, (judge entry).outcome = .ok none →
      (judge' entry).outcome ≠ .ok (some false)) :
    (judgeEntries mode judge entries).Upholds (judgeEntries mode judge' entries) := by
  intro yes no
  by_cases any : mode = .any
  · -- Some entry holds, though in the other tree each of them leaves it open.
    subst any
    obtain ⟨entry, member, settled⟩ := exists_of_outcome_judgeEntries_settled yes
    obtain ⟨result, answer, unsettled⟩ :=
      (outcome_judgeEntries_open_iff entries).mp no entry member
    exact unsettled (holds entry member settled result answer)
  · -- Some entry fails in the other tree, though none does in the first one.
    have settling : (mode == .any) = false := by simpa using any
    have opening : (mode != .any) = true := by simpa using any
    have left_open : (judgeEntries mode judge entries).outcome = .ok (mode != .any) := by
      rw [opening]
      exact yes
    have settled : (judgeEntries mode judge' entries).outcome = .ok (mode == .any) := by
      rw [settling]
      exact no
    obtain ⟨entry, member, fails⟩ := exists_of_outcome_judgeEntries_settled settled
    obtain ⟨result, answer, unsettled⟩ :=
      (outcome_judgeEntries_open_iff entries).mp left_open entry member
    rw [settling] at fails unsettled
    cases result with
    | none => exact passes entry member answer fails
    | some b =>
      have isTrue : b = true := by
        cases b with
        | true => rfl
        | false => exact absurd rfl unsettled
      rw [isTrue] at answer
      have impossible := holds entry member answer (some false) fails
      simp at impossible

theorem upholds_judgeEntries_of_rules {entries : List (Value × Value)}
    (each : ∀ key argument name, (key, argument) ∈ entries → RuleName.ofValue? key = some name →
      (judgeRule o nested mode v name argument (rulePath path key)).Upholds
        (judgeRule o' nested' mode v name argument (rulePath path key)))
    (unknown : ∀ entry ∈ entries, RuleName.ofValue? entry.1 = none → o'.strict = true → o.strict = true) :
    (judgeEntries mode (judgeEntry o nested depth mode path v) entries).Upholds
      (judgeEntries mode (judgeEntry o' nested' depth mode path v) entries) := by
  apply upholds_judgeEntries
  · rintro ⟨key, argument⟩ member holds result answer
    cases named : RuleName.ofValue? key with
    | none =>
      rw [outcome_judgeEntry_of_unknown named] at holds
      cases strict : o.strict <;> simp [strict] at holds
    | some name =>
      rw [outcome_judgeEntry_of_rule named] at holds answer
      obtain ⟨b, judged, same⟩ := Search.bind_eq_ok_iff.mp holds
      obtain ⟨b', judged', same'⟩ := Search.bind_eq_ok_iff.mp answer
      have isTrue : b = true := by simpa using Except.ok.inj same
      rw [isTrue] at judged
      have upheld := each key argument name member named judged
      cases b' with
      | true => exact (Except.ok.inj same').symm
      | false => exact absurd judged' upheld
  · rintro ⟨key, argument⟩ member passed fails
    cases named : RuleName.ofValue? key with
    | none =>
      rw [outcome_judgeEntry_of_unknown named] at passed fails
      have lenient : o.strict = false := by
        cases strict : o.strict with
        | false => rfl
        | true => simp [strict] at passed
      have failing : o'.strict = true := by
        cases strict : o'.strict with
        | true => rfl
        | false => simp [strict] at fails
      rw [unknown (key, argument) member named failing] at lenient
      simp at lenient
    | some name =>
      rw [outcome_judgeEntry_of_rule named] at passed
      obtain ⟨b, _, same⟩ := Search.bind_eq_ok_iff.mp passed
      simp at same

theorem upholds_judgeProperties (sameData : o.data = o'.data) {asked : List (Value × Value)}
    (inside : ∀ entry ∈ asked, ∀ found path,
      (nested found (.ofValue entry.2) .default path).Upholds
        (nested' found (.ofValue entry.2) .default path)) :
    (judgeProperties o nested v path asked).Upholds (judgeProperties o' nested' v path asked) := by
  intro yes no
  rw [outcome_judgeProperties] at yes no
  obtain ⟨entry, member, fails⟩ := Search.exists_of_allM no (by simp)
  have holds := (Search.allM_eq_true_iff asked).mp yes entry member
  obtain ⟨found, resolved, answer⟩ := outcome_judgeProperty_eq_ok_iff.mp holds
  obtain ⟨found', resolved', answer'⟩ := outcome_judgeProperty_eq_ok_iff.mp fails
  rw [← Options.fallback_congr sameData, resolved] at resolved'
  have same : found = found' := Except.ok.inj resolved'
  rw [← same] at answer'
  exact inside entry member found _ answer answer'

section Inside

variable
  (straight : ∀ inner, rules.StandsUnder count inner → ∀ found mode path,
    (nested found (.ofValue inner) mode path).Upholds (nested' found (.ofValue inner) mode path))
  (turned : ∀ inner, rules.StandsUnder (count + 1) inner → ∀ found mode path,
    (nested' found (.ofValue inner) mode path).Upholds (nested found (.ofValue inner) mode path))

include straight turned

theorem upholds_judgeRule {key argument : Value} {entries : List (Value × Value)} {name : RuleName}
    (sameData : o.data = o'.data) (standing : rules.StandsUnder count node)
    (mapping : node.entries? = some entries) (member : (key, argument) ∈ entries)
    (named : RuleName.ofValue? key = some name) :
    (judgeRule o nested mode v name argument path).Upholds
      (judgeRule o' nested' mode v name argument path) := by
  cases name with
  | any =>
    exact straight argument (standing.nesting mapping member named (by simp)) v .any path
  | all =>
    exact straight argument (standing.nesting mapping member named (by simp)) v .all path
  | negation =>
    have inside := turned argument (standing.negation mapping member named) v .default path
    by_cases rule : argument.IsRule
    · simp only [judgeRule, judgeNegation_of_isRule rule]
      exact inside.opposite
    · simp only [judgeRule, judgeNegation, RuleNode.ofValue_of_not_isRule rule]
      exact .of_outcome_eq rfl
  | properties =>
    simp only [judgeRule]
    cases properties : argument.entries? with
    | none => exact .of_outcome_eq rfl
    | some asked =>
      apply upholds_judgeProperties sameData
      intro entry held found path
      have inner := standing.property mapping member named properties held
      exact straight entry.2 inner found .default path
  | has =>
    simp only [judgeRule, has_congr sameData]
    exact .of_outcome_eq rfl
  | _ => exact .of_outcome_eq rfl

theorem upholds_judgeTree {entries : List (Value × Value)} (sameData : o.data = o'.data)
    (standing : rules.StandsUnder count node) (mapping : node.entries? = some entries)
    (stricter : node.HasUnknownName → o'.strict = true → o.strict = true) :
    (judgeEntries mode (judgeEntry o nested depth mode path v) entries).Upholds
      (judgeEntries mode (judgeEntry o' nested' depth mode path v) entries) := by
  apply upholds_judgeEntries_of_rules
  · intro key argument name member named
    exact upholds_judgeRule straight turned sameData standing mapping member named
  · intro entry member unknown
    exact stricter ⟨entries, mapping, entry, member, unknown⟩

end Inside

/-- With the same levels left, rules that hold under some options do not fail under others that differ
from them only in how strict they are, if at each unknown name the stricter options are those that help.
A negation exchanges the two options. -/
theorem upholds_judge {left : Nat} (sameData : o.data = o'.data) (sameLimit : o.maxDepth = o'.maxDepth)
    (steady : ∀ count f, rules.StandsUnder count (.function f) → ∀ v,
      ((table f).judge o v).outcome = ((table f).judge o' v).outcome)
    (stricter : ∀ around unknown, rules.StandsUnder around unknown → unknown.HasUnknownName →
      o.StricterUnder o' (around + count))
    (standing : rules.StandsUnder count node) :
    (judge table o left v (.ofValue node) mode path).Upholds
      (judge table o' left v (.ofValue node) mode path) := by
  induction left generalizing o o' count node v mode path with
  | zero =>
    intro yes
    simp at yes
  | succ left ih =>
    have straight : ∀ inner, rules.StandsUnder count inner → ∀ found mode path,
        (judge table o left found (.ofValue inner) mode path).Upholds
          (judge table o' left found (.ofValue inner) mode path) := by
      intro inner inside found mode path
      exact ih sameData sameLimit steady stricter inside
    have turned : ∀ inner, rules.StandsUnder (count + 1) inner → ∀ found mode path,
        (judge table o' left found (.ofValue inner) mode path).Upholds
          (judge table o left found (.ofValue inner) mode path) := by
      intro inner inside found mode path
      refine ih sameData.symm sameLimit.symm ?_ ?_ inside
      · intro count f called v
        exact (steady count f called v).symm
      · intro around unknown place lacking
        exact Options.stricterUnder_succ.mpr (stricter around unknown place lacking)
    simp only [judge_succ, sameLimit]
    rcases RuleNode.ofValue_cases node with
      ⟨entries, mapping, tree⟩ | ⟨f, rfl, called⟩ | ⟨_, malformed⟩
    · rw [tree]
      apply upholds_judgeTree straight turned sameData standing mapping
      intro unknown
      have here := stricter count node standing unknown
      unfold Options.StricterUnder at here
      rwa [if_pos (Even.add_self count)] at here
    · rw [called]
      apply Run.Upholds.of_outcome_eq
      simp only [judgeNode, monadLift_self, Run.outcome_bind, steady count f standing v]
    · rw [malformed]
      exact .of_outcome_eq rfl

end Evaluation

/-- Between strict options and others that are the same otherwise, verdicts change one way only: where
all unknown names stand under an even number of negations, what strict options accept the others accept
as well; under an odd number, what the others accept strict options accept as well; and where there are
none, the verdicts are equal. -/
theorem evaluate_strict (table : PredicateTable) (o : Options) (v rules : Value) {b b' : Bool}
    (steady : ∀ count f, rules.StandsUnder count (.function f) → ∀ v,
      ((table f).judge { o with strict := true } v).outcome =
        ((table f).judge { o with strict := false } v).outcome)
    (strict : (evaluate table { o with strict := true } v rules).outcome = .ok b)
    (lenient : (evaluate table { o with strict := false } v rules).outcome = .ok b') :
    let Unknown (count : Nat) := ∃ node, rules.StandsUnder count node ∧ node.HasUnknownName
    ((∀ count, Unknown count → Even count) → b = true → b' = true) ∧
      ((∀ count, Unknown count → Odd count) → b' = true → b = true) ∧
      ((∀ count, ¬ Unknown count) → b = b') := by
  intro Unknown
  have forward (even : ∀ count, Unknown count → Even count) : b = true → b' = true := by
    intro yes
    have upheld : (evaluate table { o with strict := true } v rules).Upholds
        (evaluate table { o with strict := false } v rules) := by
      refine Evaluation.upholds_judge rfl rfl steady ?_ .whole
      intro around unknown place lacking
      have isEven : Even around := even around ⟨unknown, place, lacking⟩
      unfold Options.StricterUnder
      rw [Nat.add_zero, if_pos isEven]
      exact fun _ => rfl
    rw [yes] at strict
    cases b' with
    | true => rfl
    | false => exact absurd lenient (upheld strict)
  have backward (odd : ∀ count, Unknown count → Odd count) : b' = true → b = true := by
    intro yes
    have upheld : (evaluate table { o with strict := false } v rules).Upholds
        (evaluate table { o with strict := true } v rules) := by
      refine Evaluation.upholds_judge rfl rfl ?_ ?_ .whole
      · intro count f called v
        exact (steady count f called v).symm
      · intro around unknown place lacking
        have isOdd : ¬ Even around := Nat.not_even_iff_odd.mpr (odd around ⟨unknown, place, lacking⟩)
        unfold Options.StricterUnder
        rw [Nat.add_zero, if_neg isOdd]
        exact fun _ => rfl
    rw [yes] at lenient
    cases b with
    | true => rfl
    | false => exact absurd strict (upheld lenient)
  refine ⟨forward, backward, ?_⟩
  intro known
  have none_even : ∀ count, Unknown count → Even count := fun count there => absurd there (known count)
  have none_odd : ∀ count, Unknown count → Odd count := fun count there => absurd there (known count)
  exact Bool.eq_iff_iff.mpr ⟨forward none_even, backward none_odd⟩

/-- A colour is asked for under a single negation, so what is accepted without it is accepted by strict
options too. -/
theorem evaluate_strict_of_negated_colour :
    let v := Value.text "Matt"
    let inner := Value.plain [(.text "colour", .int 1), (.text "startsWith", .text "G")]
    let rules := Value.plain [(.text "type", .text "string"), (.text "not", inner)]
    let Unknown (count : Nat) := ∃ node, rules.StandsUnder count node ∧ node.HasUnknownName
    Unknown 1 ∧ (∀ count, Unknown count → Odd count) ∧
      ∃ b, (evaluate Catalog.table { strict := true } v rules).outcome = .ok b ∧
        (evaluate Catalog.table { strict := false } v rules).outcome = .ok true ∧ b = true := by
  intro v inner rules Unknown
  have lacking : inner.HasUnknownName := ⟨_, rfl, (.text "colour", .int 1), by simp, rfl⟩
  have within : rules.StandsUnder 1 inner :=
    .negation .whole (rfl : rules.entries? = _) (by simp : (Value.text "not", inner) ∈ _) rfl
  have places : ∀ count node, rules.StandsUnder count node →
      count = 0 ∧ node = rules ∨ count = 1 ∧ node = inner := by
    intro count node standing
    induction standing with
    | whole => exact .inl ⟨rfl, rfl⟩
    | nesting _ mapping member named straight ih =>
      rcases ih with ⟨_, rfl⟩ | ⟨_, rfl⟩ <;> cases mapping <;>
        rcases List.mem_pair.mp member with same | same <;> cases same <;> cases named <;>
        simp at straight
    | negation _ mapping member named ih =>
      rcases ih with ⟨rfl, rfl⟩ | ⟨_, rfl⟩ <;> cases mapping <;>
        rcases List.mem_pair.mp member with same | same <;> cases same <;> cases named
      exact .inr ⟨rfl, rfl⟩
    | property _ mapping member named _ _ ih =>
      rcases ih with ⟨_, rfl⟩ | ⟨_, rfl⟩ <;> cases mapping <;>
        rcases List.mem_pair.mp member with same | same <;> cases same <;> cases named
  have odd : ∀ count, Unknown count → Odd count := by
    rintro count ⟨node, standing, unknown⟩
    rcases places count node standing with ⟨rfl, rfl⟩ | ⟨rfl, rfl⟩
    · obtain ⟨entries, mapping, entry, member, unnamed⟩ := unknown
      cases mapping
      rcases List.mem_pair.mp member with rfl | rfl <;> cases unnamed
    · exact odd_one
  have strict : (evaluate Catalog.table { strict := true } v rules).outcome = .ok true := rfl
  have lenient : (evaluate Catalog.table { strict := false } v rules).outcome = .ok true := rfl
  have steady : ∀ count f, rules.StandsUnder count (.function f) → ∀ v,
      ((Catalog.table f).judge { strict := true } v).outcome =
        ((Catalog.table f).judge { strict := false } v).outcome := by
    intro count f called
    rcases places count _ called with ⟨_, same⟩ | ⟨_, same⟩ <;>
      simp [rules, inner, Value.plain] at same
  have compared := evaluate_strict Catalog.table {} v rules steady strict lenient
  exact ⟨⟨inner, within, lacking⟩, odd, true, strict, lenient, compared.2.1 odd rfl⟩

end Criteria
