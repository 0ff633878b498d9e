import Criteria.Rule.Node

set_option autoImplicit false
set_option relaxedAutoImplicit false

/-!
# Where rules stand

A rule can hold rules: the arguments of `any`, `all` and `not`, and what `match` asks of each property.
`Value.StandsAt` counts how many such steps lead from the whole of the rules to a rule inside.
-/

namespace Criteria

namespace RuleName

theorem ofName?_name (rule : RuleName) : ofName? rule.name = some rule := by
  cases rule with
  | comparison c => cases c <;> rfl
  | _ => rfl

private theorem name_of_find? {name : String} {c : Comparison}
    (found : Comparison.ofName? name = some c) : c.name = name := by
  have holds := List.find?_some found
  exact eq_of_beq holds

theorem ofName?_eq_some_iff {name : String} {rule : RuleName} :
    ofName? name = some rule ↔ name = rule.name := by
  constructor
  · intro found
    unfold ofName? at found
    split at found
    · rename_i r handled
      have holds := List.find?_some handled
      have same : r = rule := Option.some.inj found
      rw [← same]
      exact (eq_of_beq holds).symm
    · obtain ⟨c, comparison, rfl⟩ := Option.map_eq_some_iff.mp found
      exact (name_of_find? comparison).symm
  · rintro rfl
    exact ofName?_name rule

theorem eq_text_of_ofValue? {key : Value} {rule : RuleName} (named : ofValue? key = some rule) :
    key = .text rule.name := by
  obtain ⟨name, text, found⟩ := Option.bind_eq_some_iff.mp named
  cases key <;> simp only [Value.text?, Option.some.injEq, reduceCtorEq] at text
  subst text
  rw [ofName?_eq_some_iff.mp found]

end RuleName

namespace Value

@[simp] theorem entries?_plain (entries : List (Value × Value)) :
    (plain entries).entries? = some entries := rfl

theorem text?_eq_none_of_entries {v : Value} {entries : List (Value × Value)}
    (mapping : v.entries? = some entries) : v.text? = none := by
  cases v <;> first | rfl | simp [entries?, untie] at mapping

theorem items?_eq_none_of_entries {v : Value} {entries : List (Value × Value)}
    (mapping : v.entries? = some entries) : v.items? = none := by
  unfold entries? at mapping
  unfold items?
  split at mapping
  · rename_i untied
    rw [untied]
  · simp at mapping

/-- Whether a value can stand where a rule is expected: it is a mapping or can be called. -/
def IsRule (v : Value) : Prop := (∃ entries, v.entries? = some entries) ∨ ∃ f, v = .function f

def innerRules (rules : Value) : List Value :=
  (rules.entries?.getD []).flatMap fun (key, argument) =>
    match RuleName.ofValue? key with
    | some .any | some .all | some .negation => [argument]
    | some .properties => (argument.entries?.getD []).map Prod.snd
    | _ => []

/-- A rule stands at a level of others when that many steps inward lead to it. -/
inductive StandsAt (rules : Value) : Nat → Value → Prop
  | whole : StandsAt rules 0 rules
  | within {level : Nat} {outer inner : Value} :
      StandsAt rules level outer → inner ∈ outer.innerRules → StandsAt rules (level + 1) inner

/-- At some level of the rules a rule of the given name has the given argument. -/
def Asks (rules : Value) (name : RuleName) (argument : Value) : Prop :=
  ∃ level node entries key, rules.StandsAt level node ∧ node.entries? = some entries ∧
    (key, argument) ∈ entries ∧ RuleName.ofValue? key = some name

/-- Whether the names of rules are texts, and the properties under `match`, not looking further in. -/
def namesByTexts (rules : Value) : Bool :=
  (rules.entries?.getD []).all fun (key, argument) =>
    key.isText && (RuleName.ofValue? key != some .properties
      || (argument.entries?.getD []).all (·.1.isText))

/-- At every level the names of rules and the properties under `match` are texts. -/
def HasTextKeys (rules : Value) : Prop :=
  ∀ level node, rules.StandsAt level node → node.namesByTexts = true

section Inner

variable {rules key argument : Value} {entries : List (Value × Value)} {name : RuleName}

theorem argument_mem_innerRules (mapping : rules.entries? = some entries)
    (member : (key, argument) ∈ entries) (named : RuleName.ofValue? key = some name)
    (nesting : name ∈ [RuleName.any, .all, .negation]) : argument ∈ rules.innerRules := by
  unfold innerRules
  rw [mapping, Option.getD_some, List.mem_flatMap]
  refine ⟨(key, argument), member, ?_⟩
  simp only [List.mem_cons, List.not_mem_nil, or_false] at nesting
  rcases nesting with rfl | rfl | rfl <;> simp [named]

theorem property_mem_innerRules {asked : List (Value × Value)} {property inner : Value}
    (mapping : rules.entries? = some entries) (member : (key, argument) ∈ entries)
    (named : RuleName.ofValue? key = some .properties) (properties : argument.entries? = some asked)
    (held : (property, inner) ∈ asked) : inner ∈ rules.innerRules := by
  unfold innerRules
  rw [mapping, Option.getD_some, List.mem_flatMap]
  refine ⟨(key, argument), member, ?_⟩
  simp only [named, properties, Option.getD_some, List.mem_map]
  exact ⟨(property, inner), held, rfl⟩

end Inner

theorem StandsAt.eq_zero_or_succ {rules node : Value} {level : Nat}
    (standing : rules.StandsAt level node) :
    level = 0 ∧ node = rules ∨
      ∃ deeper, level = deeper + 1 ∧ ∃ inner ∈ rules.innerRules, inner.StandsAt deeper node := by
  induction standing with
  | whole => exact .inl ⟨rfl, rfl⟩
  | within outer step ih =>
    right
    rcases ih with ⟨rfl, rfl⟩ | ⟨deeper, rfl, inner, first, later⟩
    · exact ⟨0, rfl, _, step, .whole⟩
    · exact ⟨deeper + 1, rfl, inner, first, .within later step⟩

theorem StandsAt.eq_or_within {rules node : Value} {level : Nat}
    (standing : rules.StandsAt level node) :
    node = rules ∨ ∃ inner ∈ rules.innerRules, ∃ deeper, inner.StandsAt deeper node := by
  rcases standing.eq_zero_or_succ with ⟨_, whole⟩ | ⟨deeper, _, inner, first, later⟩
  · exact .inl whole
  · exact .inr ⟨inner, first, deeper, later⟩

namespace HasTextKeys

theorem of_innerRules {rules : Value} (here : rules.namesByTexts = true)
    (inner : ∀ inner ∈ rules.innerRules, inner.HasTextKeys) : rules.HasTextKeys := by
  intro level node standing
  rcases standing.eq_or_within with rfl | ⟨outer, step, deeper, later⟩
  · exact here
  · exact inner outer step deeper node later

theorem isText {rules node : Value} {level : Nat} {entries : List (Value × Value)}
    (keys : rules.HasTextKeys) (standing : rules.StandsAt level node)
    (mapping : node.entries? = some entries) {e : Value × Value} (member : e ∈ entries) :
    e.1.isText = true := by
  have texts := keys level node standing
  unfold namesByTexts at texts
  rw [mapping, Option.getD_some, List.all_eq_true] at texts
  have both := texts e member
  simp only [Bool.and_eq_true] at both
  exact both.1

end HasTextKeys

end Value

namespace RuleNode

theorem ofValue_of_entries {v : Value} {entries : List (Value × Value)}
    (mapping : v.entries? = some entries) : ofValue v = .tree entries := by
  simp [ofValue, mapping]

theorem ofValue_of_not_isRule {v : Value} (malformed : ¬ v.IsRule) : ofValue v = .malformed v := by
  have noEntries : v.entries? = none := by
    cases entries : v.entries? with
    | none => rfl
    | some entries' => exact absurd (Or.inl ⟨entries', entries⟩) malformed
  unfold ofValue
  split
  · rename_i entries found
    simp [noEntries] at found
  · rename_i f _
    exact absurd (Or.inr ⟨f, rfl⟩) malformed
  · rfl

theorem ofValue_cases (v : Value) :
    (∃ entries, v.entries? = some entries ∧ ofValue v = .tree entries) ∨
      (∃ f, v = .function f ∧ ofValue v = .predicate f) ∨
      (¬ v.IsRule ∧ ofValue v = .malformed v) := by
  by_cases rule : v.IsRule
  · rcases rule with ⟨entries, mapping⟩ | ⟨f, rfl⟩
    · exact .inl ⟨entries, mapping, ofValue_of_entries mapping⟩
    · exact .inr (.inl ⟨f, rfl, rfl⟩)
  · exact .inr (.inr ⟨rule, ofValue_of_not_isRule rule⟩)

end RuleNode

end Criteria
