import Criteria.Proofs.RuleSet.Acceptance

set_option autoImplicit false
set_option relaxedAutoImplicit false

/-!
# Named rules written back

An entry can say what it says in many forms, and a named rule keeps one of them: a text, a mapping, an
integer and a list. These forms are converted to themselves, so a named rule that was read and is written
as an entry is read as itself, and so is a list of them.
-/

namespace Criteria

namespace Value

@[simp] theorem toText_text (s : String) : (text s).toText = .ok s := rfl

@[simp] theorem toInteger_int (n : Int) : (int n).toInteger = .ok n := rfl

@[simp] theorem toItems_list (items : List Value) : (list items).toItems = .ok items := rfl

end Value

namespace NamedRule

variable {entry : Value} {rule : NamedRule} {fields : List (Value × Value)}

/-- The parts of a named rule have the forms to which those of an entry are converted. -/
structure IsNormal (rule : NamedRule) : Prop where
  id : ∃ text, rule.id = .text text
  rules : ∃ entries, ownEntries? rule.rules = some entries
  priority : ∃ n, rule.priority = .int n
  tags : ∃ items, rule.tags = .list items

theorem WrittenBy.isNormal (written : rule.WrittenBy entry) : rule.IsNormal := by
  obtain ⟨fields, id, _, parts⟩ := written
  obtain ⟨text, _, isText⟩ := parts.id
  obtain ⟨n, _, isInteger⟩ := parts.priority
  obtain ⟨items, _, isList⟩ := parts.tags
  exact ⟨⟨text, isText⟩, parts.rules.2, ⟨n, isInteger⟩, ⟨items, isList⟩⟩

theorem given_of_lookup {α : Type} {name : String} {default a : α} {convert : Value → Except Fault α}
    {v : Value} (held : Value.lookup name fields = some v) (converted : convert v = .ok a) :
    Given fields name default convert a := .inr ⟨v, held, converted⟩

theorem ofValue_toValue_iff : ofValue rule.toValue = .ok rule ↔ rule.IsNormal := by
  have isEntry : IsEntry rule.toValue [(.text "id", rule.id), (.text "rules", rule.rules),
      (.text "priority", rule.priority), (.text "description", rule.description),
      (.text "tags", rule.tags)] rule.id := ⟨rfl, rfl⟩
  constructor
  · intro read
    exact (ofValue_eq_ok_iff.mp read).isNormal
  · intro normal
    obtain ⟨text, isText⟩ := normal.id
    obtain ⟨n, isInteger⟩ := normal.priority
    obtain ⟨items, isList⟩ := normal.tags
    refine (ofValue_eq_ok_iff_of_isEntry isEntry).mpr {
      id := ⟨text, ?_, isText⟩
      rules := ⟨given_of_lookup rfl rfl, normal.rules⟩
      priority := ⟨n, given_of_lookup rfl ?_, isInteger⟩
      description := given_of_lookup rfl rfl
      tags := ⟨items, given_of_lookup rfl ?_, isList⟩ }
    · rw [isText, Value.toText_text]
    · rw [isInteger, Value.toInteger_int]
    · rw [isList, Value.toItems_list]

end NamedRule

namespace RuleSet

variable {rules : List NamedRule}

theorem ofEntries_toValue (normal : ∀ rule ∈ rules, rule.IsNormal) (apart : (identifiers rules).Nodup) :
    ofEntries (rules.map NamedRule.toValue) = .ok rules := by
  refine ofEntries_eq_ok_iff.mpr ⟨?_, apart⟩
  rw [List.forall₂_map_left_iff, List.forall₂_same]
  intro rule member
  exact NamedRule.ofValue_eq_ok_iff.mp (NamedRule.ofValue_toValue_iff.mpr (normal rule member))

theorem isNormal_of_forall₂ {items : List Value}
    (written : List.Forall₂ (fun entry rule => NamedRule.WrittenBy rule entry) items rules) :
    ∀ rule ∈ rules, rule.IsNormal := by
  induction written with
  | nil => simp
  | cons here _ ih => exact List.forall_mem_cons.mpr ⟨here.isNormal, ih⟩

end RuleSet

/-- A named rule that was read from an entry is read from its own entry as itself, and the named rules that
were loaded from a text are read from their own entries as the same list. -/
theorem exports_are_read_back :
    (∀ entry rule, NamedRule.ofValue entry = .ok rule → NamedRule.ofValue rule.toValue = .ok rule) ∧
      ∀ (reader : DocumentReader) text rules, reader.loadRuleSet text = .ok rules →
        RuleSet.ofEntries (rules.map NamedRule.toValue) = .ok rules := by
  constructor
  · intro entry rule read
    exact NamedRule.ofValue_toValue_iff.mpr (NamedRule.ofValue_eq_ok_iff.mp read).isNormal
  · intro reader text rules loaded
    obtain ⟨document, _, read⟩ := Search.bind_eq_ok_iff.mp loaded
    obtain ⟨items, _, written, apart⟩ := RuleSet.ofDocument_eq_ok_iff.mp read
    exact RuleSet.ofEntries_toValue (RuleSet.isNormal_of_forall₂ written) apart

/-- An entry in which each part has to be converted, and a text of one entry. -/
theorem exports_are_read_back_of_conversions :
    let entry := Value.plain
      [(.text "id", .bool true), (.text "priority", .bool true), (.text "tags", .text "ab")]
    let rule : NamedRule :=
      { id := .text "True", rules := .plain [], priority := .int 1, tags := .list [.text "a", .text "b"] }
    let text := "\x7b\"rules\": [\x7b\"id\": \"a\"\x7d]\x7d"
    NamedRule.ofValue entry = .ok rule ∧ NamedRule.ofValue rule.toValue = .ok rule ∧
      ∃ rules, Yaml.reader.loadRuleSet text = .ok rules ∧ RuleSet.identifiers rules = ["a"] ∧
        RuleSet.ofEntries (rules.map NamedRule.toValue) = .ok rules := by
  intro entry rule text
  have read : NamedRule.ofValue entry = .ok rule := rfl
  have named : (Yaml.reader.loadRuleSet text).toOption.map RuleSet.identifiers = some ["a"] := by decide +kernel
  obtain ⟨rules, loaded, identified⟩ := Search.exists_of_toOption_map named
  exact ⟨read, exports_are_read_back.1 entry rule read, rules, loaded, identified,
    exports_are_read_back.2 Yaml.reader text rules loaded⟩

end Criteria
