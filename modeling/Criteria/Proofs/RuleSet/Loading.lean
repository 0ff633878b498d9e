import Criteria.Proofs.Search
import Criteria.Yaml.Loading

set_option autoImplicit false
set_option relaxedAutoImplicit false

/-!
# What keeps a rule set from being loaded

A document that holds no list of entries, an entry that is malformed and an identifier that occurs twice
are load faults. What an entry says of itself is converted: its identifier to a text, its priority to an
integer and its tags to a list. An entry in which one of these cannot be converted is malformed like any
other, but the fault of the conversion is no load fault, and loading fails with it.
-/

namespace Criteria

/-- The faults of the conversions to a text, an integer and a list. -/
inductive Fault.OfConversion : Fault → Prop
  | unwritable : OfConversion .unwritable
  | wrongType : OfConversion .wrongType
  | infinity (decimal : Bool) : OfConversion (.infinityToInteger decimal)
  | nan (decimal : Bool) : OfConversion (.nanToInteger decimal)
  | digits (quoted : String) : OfConversion (.integerText 10 quoted)
  | length {count : Nat} (long : digitLimit < count) : OfConversion (.tooManyDigits count)

theorem Fault.OfConversion.ne_load {f : Fault} (conversion : f.OfConversion) (fault : LoadFault) :
    f ≠ .load fault := by
  cases conversion <;> simp [Fault.unwritable]

theorem Text.readInteger_eq_error {shown : String} {text : List Char} {f : Fault}
    (stopped : readInteger 10 shown text = .error f) : f.OfConversion := by
  have refused (same : (.error (.integerText 10 shown) : Except Fault Int) = .error f) :
      f.OfConversion :=
    Except.error.inj same ▸ .digits shown
  unfold readInteger at stopped
  simp only at stopped
  split at stopped
  · exact refused stopped
  · exact refused stopped
  · split at stopped
    · exact refused stopped
    · split at stopped
      · rename_i limit
        have long : digitLimit < _ := of_decide_eq_true (Bool.and_eq_true_iff.mp limit).2
        exact Except.error.inj stopped ▸ .length long
      · split at stopped
        · exact refused stopped
        · simp at stopped

theorem Number.toInteger_eq_error {n : Number} {f : Fault} (stopped : n.toInteger = .error f) :
    f.OfConversion := by
  unfold toInteger at stopped
  split at stopped
  · simp at stopped
  · split at stopped
    · simp at stopped
    · exact Except.error.inj stopped ▸ .infinity false
    · exact Except.error.inj stopped ▸ .nan false
  · split at stopped
    · simp at stopped
    · exact Except.error.inj stopped ▸ .infinity true
    · exact Except.error.inj stopped ▸ .nan true
  · simp at stopped
  · exact Except.error.inj stopped ▸ .wrongType

namespace Value

variable {v : Value} {f : Fault}

theorem toText_eq_error (stopped : v.toText = .error f) : f.OfConversion := by
  unfold toText at stopped
  split at stopped
  · exact Except.error.inj stopped ▸ .unwritable
  · simp at stopped

theorem toInteger_eq_error (stopped : v.toInteger = .error f) : f.OfConversion := by
  unfold toInteger at stopped
  split at stopped
  · simp at stopped
  · exact Number.toInteger_eq_error stopped
  · exact Text.readInteger_eq_error stopped
  · exact Text.readInteger_eq_error stopped
  · exact Except.error.inj stopped ▸ .wrongType

theorem toItems_eq_error (stopped : v.toItems = .error f) : f.OfConversion := by
  unfold toItems at stopped
  split at stopped
  case h_6 => exact Except.error.inj stopped ▸ .wrongType
  all_goals simp at stopped

end Value

namespace NamedRule

variable {entry id : Value} {fields : List (Value × Value)} {f : Fault}

/-- An entry of a rule set is a mapping that has an identifier. -/
structure IsEntry (entry : Value) (fields : List (Value × Value)) (id : Value) : Prop where
  mapping : ownEntries? entry = some fields
  named : Value.lookup "id" fields = some id

/-- What is malformed about an entry before anything in it is converted. -/
inductive Malformed (entry : Value) : LoadFault → Prop
  | other : ownEntries? entry = none → Malformed entry (.entryNotMapping entry.typeName)
  | unnamed {fields : List (Value × Value)} : ownEntries? entry = some fields →
      Value.lookup "id" fields = none → Malformed entry .missingId
  | rules {fields : List (Value × Value)} {id : Value} {text : String} : IsEntry entry fields id →
      id.toText = .ok text → readRules id fields = .error (.load (.rulesNotMapping text)) →
      Malformed entry (.rulesNotMapping text)

/-- The first field of an entry that cannot be converted. -/
inductive Unconverted (entry : Value) (f : Fault) : Prop
  | id {fields : List (Value × Value)} {id : Value} :
      IsEntry entry fields id → id.toText = .error f → Unconverted entry f
  | priority {fields : List (Value × Value)} {id rules : Value} {text : String} :
      IsEntry entry fields id → readRules id fields = .ok rules → id.toText = .ok text →
      readPriority fields = .error f → Unconverted entry f
  | tags {fields : List (Value × Value)} {id rules : Value} {text : String} {priority : Int} :
      IsEntry entry fields id → readRules id fields = .ok rules → id.toText = .ok text →
      readPriority fields = .ok priority → readTags fields = .error f → Unconverted entry f

theorem readRules_eq_error (stopped : readRules id fields = .error f) :
    id.toText = .error f ∨ ∃ text, id.toText = .ok text ∧ f = .load (.rulesNotMapping text) := by
  unfold readRules at stopped
  simp only at stopped
  split at stopped
  · simp at stopped
  · rcases Search.bind_eq_error_iff.mp stopped with unwritten | ⟨text, written, fault⟩
    · exact .inl unwritten
    · exact .inr ⟨text, written, (Except.error.inj fault).symm⟩

theorem readRules_of_unwritten (fields : List (Value × Value)) (unwritten : id.toText = .error f) :
    readRules id fields = .error f ∨ ∃ rules, readRules id fields = .ok rules := by
  unfold readRules
  simp only
  split
  · exact .inr ⟨_, rfl⟩
  · rw [unwritten]
    exact .inl rfl

theorem Unconverted.ofConversion (unconverted : Unconverted entry f) : f.OfConversion := by
  cases unconverted with
  | id _ stopped => exact Value.toText_eq_error stopped
  | priority _ _ _ stopped =>
    unfold readPriority at stopped
    split at stopped
    · exact Value.toInteger_eq_error stopped
    · simp at stopped
  | tags _ _ _ _ stopped =>
    unfold readTags at stopped
    split at stopped
    · exact Value.toItems_eq_error stopped
    · simp at stopped

theorem ofValue_of_isEntry (isEntry : IsEntry entry fields id) :
    ofValue entry = (do
      let rules ← readRules id fields
      let text ← id.toText
      let priority ← readPriority fields
      let tags ← readTags fields
      return {
        id := .text text
        rules
        priority := .int priority
        description := (Value.lookup "description" fields).getD (.text "")
        tags := .list tags }) := by
  unfold ofValue
  rw [isEntry.mapping]
  simp only [isEntry.named]

theorem ofValue_eq_error_iff :
    ofValue entry = .error f ↔ (∃ fault, f = .load fault ∧ Malformed entry fault) ∨ Unconverted entry f := by
  constructor
  · intro stopped
    -- The cases come in the order of the checks: mapping, identifier, rules, then the conversions.
    unfold ofValue at stopped
    split at stopped
    · rename_i other
      exact .inl ⟨_, (Except.error.inj stopped).symm, .other other⟩
    rename_i fields mapping
    split at stopped
    · rename_i unnamed
      exact .inl ⟨_, (Except.error.inj stopped).symm, .unnamed mapping unnamed⟩
    rename_i id named
    have isEntry : IsEntry entry fields id := ⟨mapping, named⟩
    rcases Search.bind_eq_error_iff.mp stopped with noRules | ⟨rules, hasRules, stopped⟩
    · rcases readRules_eq_error noRules with unwritten | ⟨text, written, rfl⟩
      · exact .inr (.id isEntry unwritten)
      · exact .inl ⟨_, rfl, .rules isEntry written noRules⟩
    rcases Search.bind_eq_error_iff.mp stopped with unwritten | ⟨text, written, stopped⟩
    · exact .inr (.id isEntry unwritten)
    rcases Search.bind_eq_error_iff.mp stopped with stopped | ⟨priority, ranked, stopped⟩
    · exact .inr (.priority isEntry hasRules written stopped)
    · exact .inr (.tags isEntry hasRules written ranked (Search.eq_error_of_bind_pure stopped))
  · rintro (⟨fault, rfl, other | ⟨mapping, unnamed⟩ | ⟨isEntry, written, noRules⟩⟩ | unconverted)
    · simp [ofValue, other]
    · simp [ofValue, mapping, unnamed]
    · simp [ofValue_of_isEntry isEntry, noRules, bind, Except.bind]
    · cases unconverted with
      | @id fields _ isEntry unwritten =>
        rw [ofValue_of_isEntry isEntry]
        -- The fault is one and the same, whether the text is wanted to refuse the rules or as the identifier.
        rcases readRules_of_unwritten fields unwritten with noRules | ⟨rules, hasRules⟩
        · rw [noRules]
          rfl
        · rw [hasRules, unwritten]
          rfl
      | priority isEntry hasRules written stopped =>
        rw [ofValue_of_isEntry isEntry, hasRules, written, stopped]
        rfl
      | tags isEntry hasRules written ranked stopped =>
        rw [ofValue_of_isEntry isEntry, hasRules, written, ranked, stopped]
        rfl

end NamedRule

namespace RuleSet

variable {document : Value} {items : List Value} {f : Fault}

/-- The first entry of a list that is not read has a field that cannot be converted. -/
def Spoilt (items : List Value) (f : Fault) : Prop :=
  ∃ before entry after, items = before ++ entry :: after ∧
    (∀ e ∈ before, ∃ rule, NamedRule.ofValue e = .ok rule) ∧ NamedRule.Unconverted entry f

theorem entriesOf_eq_error (stopped : entriesOf document = .error f) : ∃ fault, f = .load fault := by
  unfold entriesOf at stopped
  simp only at stopped
  split at stopped
  · exact ⟨_, (Except.error.inj stopped).symm⟩
  · split at stopped
    · simp at stopped
    · exact ⟨_, (Except.error.inj stopped).symm⟩

theorem ofEntries_eq_error_iff :
    ofEntries items = .error f ↔ items.mapM NamedRule.ofValue = .error f ∨
      ∃ rules id, items.mapM NamedRule.ofValue = .ok rules ∧ firstRepeated [] rules = some id ∧
        f = .load (.duplicateId id) := by
  unfold ofEntries
  rw [Search.bind_eq_error_iff]
  apply or_congr_right
  constructor
  · rintro ⟨rules, read, stopped⟩
    split at stopped
    · rename_i id repeated
      exact ⟨rules, id, read, repeated, (Except.error.inj stopped).symm⟩
    · simp [pure, Except.pure] at stopped
  · rintro ⟨rules, id, read, repeated, rfl⟩
    refine ⟨rules, read, ?_⟩
    simp only [repeated]

theorem ofEntries_escapes_iff :
    ofEntries items = .error f ∧ (∀ fault, f ≠ .load fault) ↔ Spoilt items f := by
  constructor
  · rintro ⟨stopped, other⟩
    rcases ofEntries_eq_error_iff.mp stopped with stopped | ⟨_, id, _, _, twice⟩
    · obtain ⟨before, entry, after, split, passed, stops⟩ := Search.mapM_eq_error_iff.mp stopped
      rcases NamedRule.ofValue_eq_error_iff.mp stops with ⟨fault, load, _⟩ | unconverted
      · exact absurd load (other fault)
      · exact ⟨before, entry, after, split, passed, unconverted⟩
    · exact absurd twice (other _)
  · rintro ⟨before, entry, after, split, passed, unconverted⟩
    have stops : NamedRule.ofValue entry = .error f :=
      NamedRule.ofValue_eq_error_iff.mpr (.inr unconverted)
    have stopped : items.mapM NamedRule.ofValue = .error f :=
      Search.mapM_eq_error_iff.mpr ⟨before, entry, after, split, passed, stops⟩
    exact ⟨ofEntries_eq_error_iff.mpr (.inl stopped), unconverted.ofConversion.ne_load⟩

end RuleSet

def Fault.of? {α : Type} : Except Fault α → Option Fault
  | .error f => some f
  | .ok _ => none

theorem Fault.of?_eq_some_iff {α : Type} {x : Except Fault α} {f : Fault} :
    Fault.of? x = some f ↔ x = .error f := by
  cases x <;> simp [Fault.of?]

/-- Where a text is a document or invalid, loading a rule set from it fails with a load fault, except that it
fails with the fault of a conversion where the first entry that is not read has a field that cannot be
converted. -/
theorem DocumentReader.loadRuleSet_escapes_iff (reader : DocumentReader) (text : String)
    (readable : ∀ f, reader text ≠ .error (.other f)) (f : Fault) :
    reader.loadRuleSet text = .error f ∧ (∀ fault, f ≠ .load fault) ↔
      ∃ document items, reader text = .ok document ∧ RuleSet.entriesOf document = .ok items ∧
        RuleSet.Spoilt items f := by
  constructor
  · rintro ⟨stopped, other⟩
    rcases Search.bind_eq_error_iff.mp stopped with unread | ⟨document, read, stopped⟩
    · rcases document_eq_error_iff.mp unread with ⟨_, invalid⟩ | failed
      · exact absurd invalid (other _)
      · exact absurd failed (readable f)
    rcases Search.bind_eq_error_iff.mp stopped with noList | ⟨items, listed, stopped⟩
    · obtain ⟨fault, load⟩ := RuleSet.entriesOf_eq_error noList
      exact absurd load (other fault)
    exact ⟨document, items, document_eq_ok_iff.mp read, listed,
      RuleSet.ofEntries_escapes_iff.mp ⟨stopped, other⟩⟩
  · rintro ⟨document, items, written, listed, spoilt⟩
    obtain ⟨stopped, other⟩ := RuleSet.ofEntries_escapes_iff.mpr spoilt
    refine ⟨?_, other⟩
    rw [loadRuleSet_of_written written, RuleSet.ofDocument, listed]
    exact stopped

namespace Yaml

def highPriority : String := "\x7b\"rules\": [\x7b\"id\": \"a\", \"priority\": \"high\"\x7d]\x7d"

theorem ofDocument_of_highPriority : ∃ document, reader highPriority = .ok document ∧
    RuleSet.ofDocument document = .error (.integerText 10 "'high'") := by
  have loaded : (reader highPriority).toOption.map (fun document => Fault.of? (RuleSet.ofDocument document)) =
      some (some (Fault.integerText 10 "'high'")) := by
    decide +kernel
  obtain ⟨document, written, stopped⟩ := Search.exists_of_toOption_map loaded
  exact ⟨document, written, Fault.of?_eq_some_iff.mp stopped⟩

theorem loadRuleSet_escapes_iff_of_highPriority :
    let fault := Fault.integerText 10 "'high'"
    (∀ f, reader highPriority ≠ .error (.other f)) ∧
      reader.loadRuleSet highPriority = .error fault ∧ (∀ load, fault ≠ .load load) ∧
      ∃ document items, reader highPriority = .ok document ∧
        RuleSet.entriesOf document = .ok items ∧ RuleSet.Spoilt items fault := by
  intro fault
  obtain ⟨document, written, stopped⟩ := ofDocument_of_highPriority
  have readable : ∀ f, reader highPriority ≠ .error (.other f) := by simp [written]
  have loaded : reader.loadRuleSet highPriority = .error fault := by
    rw [DocumentReader.loadRuleSet_of_written written, stopped]
  have other : ∀ load, fault ≠ .load load := nofun
  exact ⟨readable, loaded, other,
    (DocumentReader.loadRuleSet_escapes_iff reader highPriority readable fault).mp ⟨loaded, other⟩⟩

/-- With a reader to which every text is a document or invalid, loading does not always answer or fail with a
load fault. -/
theorem not_loadRuleSet_answers_or_load : ¬ ∀ (reader : DocumentReader) (text : String),
    (∀ f, reader text ≠ .error (.other f)) →
      (∃ rules, reader.loadRuleSet text = .ok rules) ∨
        ∃ fault, reader.loadRuleSet text = .error (.load fault) := by
  intro claimed
  obtain ⟨document, written, stopped⟩ := ofDocument_of_highPriority
  have loaded : reader.loadRuleSet highPriority = .error (.integerText 10 "'high'") := by
    rw [DocumentReader.loadRuleSet_of_written written, stopped]
  rcases claimed reader highPriority (by simp [written]) with ⟨rules, answer⟩ | ⟨fault, load⟩
  · simp [loaded] at answer
  · simp [loaded] at load

end Yaml

end Criteria
