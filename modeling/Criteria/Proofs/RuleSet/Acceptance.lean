import Criteria.Proofs.RuleSet.Loading

set_option autoImplicit false
set_option relaxedAutoImplicit false

/-!
# What is loaded as a rule set

A document is loaded exactly when it lists entries, every entry can be read and no two of the named rules
have one identifier. Each entry then gives a named rule, in their order. Otherwise the entries are read up
to the first that is refused, and only where none is are the identifiers compared.
-/

namespace Criteria

namespace NamedRule

variable {entry id rules : Value} {fields : List (Value × Value)} {rule : NamedRule} {f : Fault}

def Given {α : Type} (fields : List (Value × Value)) (name : String) (default : α)
    (convert : Value → Except Fault α) (a : α) : Prop :=
  Value.lookup name fields = none ∧ a = default ∨ ∃ v, Value.lookup name fields = some v ∧ convert v = .ok a

/-- The rules of an entry are a mapping; without any they are the empty tree. -/
def HasRules (fields : List (Value × Value)) (rules : Value) : Prop :=
  Given fields "rules" (.plain []) .ok rules ∧ ∃ entries, ownEntries? rules = some entries

/-- The parts of a named rule are those that the fields of an entry give: the identifier as a text, the rules,
which are a mapping, and the description as they are, the priority as an integer and the tags as a list. -/
structure WrittenIn (rule : NamedRule) (fields : List (Value × Value)) (id : Value) : Prop where
  id : ∃ text, id.toText = .ok text ∧ rule.id = .text text
  rules : HasRules fields rule.rules
  priority : ∃ n, Given fields "priority" 0 Value.toInteger n ∧ rule.priority = .int n
  description : Given fields "description" (.text "") .ok rule.description
  tags : ∃ items, Given fields "tags" [] Value.toItems items ∧ rule.tags = .list items

/-- A named rule is what an entry writes. -/
def WrittenBy (rule : NamedRule) (entry : Value) : Prop :=
  ∃ fields id, IsEntry entry fields id ∧ rule.WrittenIn fields id

/-- A field of an entry is there and cannot be converted. -/
def Fails {α : Type} (fields : List (Value × Value)) (name : String) (convert : Value → Except Fault α)
    (f : Fault) : Prop :=
  ∃ v, Value.lookup name fields = some v ∧ convert v = .error f

/-- The first thing that is wrong with an entry, in the order in which its parts are looked at. -/
inductive Refused (entry : Value) : Fault → Prop
  | other : ownEntries? entry = none → Refused entry (.load (.entryNotMapping entry.typeName))
  | unnamed {fields : List (Value × Value)} : ownEntries? entry = some fields →
      Value.lookup "id" fields = none → Refused entry (.load .missingId)
  | identifier {fields : List (Value × Value)} {id : Value} {f : Fault} :
      IsEntry entry fields id → id.toText = .error f → Refused entry f
  | rules {fields : List (Value × Value)} {id rules : Value} {text : String} :
      IsEntry entry fields id → id.toText = .ok text → Value.lookup "rules" fields = some rules →
      ownEntries? rules = none → Refused entry (.load (.rulesNotMapping text))
  | priority {fields : List (Value × Value)} {id rules : Value} {text : String} {f : Fault} :
      IsEntry entry fields id → id.toText = .ok text → HasRules fields rules →
      Fails fields "priority" Value.toInteger f → Refused entry f
  | tags {fields : List (Value × Value)} {id rules : Value} {text : String} {n : Int} {f : Fault} :
      IsEntry entry fields id → id.toText = .ok text → HasRules fields rules →
      Given fields "priority" 0 Value.toInteger n → Fails fields "tags" Value.toItems f → Refused entry f

theorem given_getD_iff {name : String} {default v : Value} :
    Given fields name default .ok v ↔ v = (Value.lookup name fields).getD default := by
  unfold Given
  cases Value.lookup name fields <;> simp [eq_comm]

theorem readRules_eq_ok_iff : readRules id fields = .ok rules ↔ HasRules fields rules := by
  rw [HasRules, given_getD_iff]
  unfold readRules
  simp only
  split
  · rename_i mapping
    constructor
    · intro read
      cases read
      exact ⟨rfl, Option.isSome_iff_exists.mp mapping⟩
    · rintro ⟨rfl, _⟩
      rfl
  · rename_i other
    constructor
    · intro read
      obtain ⟨_, _, refused⟩ := Search.bind_eq_ok_iff.mp read
      simp at refused
    · rintro ⟨rfl, mapping⟩
      exact absurd (Option.isSome_iff_exists.mpr mapping) other

theorem readRules_eq_rulesNotMapping_iff {text : String} (written : id.toText = .ok text) :
    readRules id fields = .error (.load (.rulesNotMapping text)) ↔
      ∃ rules, Value.lookup "rules" fields = some rules ∧ ownEntries? rules = none := by
  unfold readRules
  cases held : Value.lookup "rules" fields with
  | none => simp [ownEntries?, Value.plain, Value.untie]
  | some rules =>
    cases mapping : ownEntries? rules with
    | none => simp [mapping, written, bind, Except.bind]
    | some entries => simp [mapping]

theorem readPriority_eq_ok_iff {n : Int} :
    readPriority fields = .ok n ↔ Given fields "priority" 0 Value.toInteger n := by
  unfold readPriority Given
  cases Value.lookup "priority" fields <;> simp [eq_comm]

theorem readPriority_eq_error_iff :
    readPriority fields = .error f ↔ Fails fields "priority" Value.toInteger f := by
  unfold readPriority Fails
  cases Value.lookup "priority" fields <;> simp

theorem readTags_eq_error_iff : readTags fields = .error f ↔ Fails fields "tags" Value.toItems f := by
  unfold readTags Fails
  cases Value.lookup "tags" fields <;> simp

theorem readTags_eq_ok_iff {items : List Value} :
    readTags fields = .ok items ↔ Given fields "tags" [] Value.toItems items := by
  unfold readTags Given
  cases Value.lookup "tags" fields <;> simp [eq_comm]

theorem ofValue_eq_ok_iff_of_isEntry (isEntry : IsEntry entry fields id) :
    ofValue entry = .ok rule ↔ rule.WrittenIn fields id := by
  rw [ofValue_of_isEntry isEntry]
  constructor
  · intro read
    obtain ⟨rules, hasRules, read⟩ := Search.bind_eq_ok_iff.mp read
    obtain ⟨text, written, read⟩ := Search.bind_eq_ok_iff.mp read
    obtain ⟨n, ranked, read⟩ := Search.bind_eq_ok_iff.mp read
    obtain ⟨items, tagged, read⟩ := Search.bind_eq_ok_iff.mp read
    cases read
    exact {
      id := ⟨text, written, rfl⟩
      rules := readRules_eq_ok_iff.mp hasRules
      priority := ⟨n, readPriority_eq_ok_iff.mp ranked, rfl⟩
      description := given_getD_iff.mpr rfl
      tags := ⟨items, readTags_eq_ok_iff.mp tagged, rfl⟩ }
  · intro parts
    obtain ⟨text, written, isText⟩ := parts.id
    obtain ⟨n, ranked, isInteger⟩ := parts.priority
    obtain ⟨items, tagged, isList⟩ := parts.tags
    rw [readRules_eq_ok_iff.mpr parts.rules, written, readPriority_eq_ok_iff.mpr ranked,
      readTags_eq_ok_iff.mpr tagged, ← given_getD_iff.mp parts.description]
    change Except.ok (NamedRule.mk (.text text) rule.rules (.int n) rule.description (.list items)) = _
    rw [← isText, ← isInteger, ← isList]

theorem isEntry_of_ofValue (read : ofValue entry = .ok rule) : ∃ fields id, IsEntry entry fields id := by
  unfold ofValue at read
  split at read
  · simp at read
  · rename_i fields mapping
    split at read
    · simp at read
    · rename_i id named
      exact ⟨fields, id, mapping, named⟩

theorem ofValue_eq_ok_iff : ofValue entry = .ok rule ↔ rule.WrittenBy entry := by
  constructor
  · intro read
    obtain ⟨fields, id, isEntry⟩ := isEntry_of_ofValue read
    exact ⟨fields, id, isEntry, (ofValue_eq_ok_iff_of_isEntry isEntry).mp read⟩
  · rintro ⟨fields, id, isEntry, parts⟩
    exact (ofValue_eq_ok_iff_of_isEntry isEntry).mpr parts

theorem ofValue_eq_error_iff_refused : ofValue entry = .error f ↔ Refused entry f := by
  rw [ofValue_eq_error_iff]
  constructor
  · rintro (⟨fault, rfl, malformed⟩ | unconverted)
    · cases malformed with
      | other other => exact .other other
      | unnamed mapping unnamed => exact .unnamed mapping unnamed
      | rules isEntry written noRules =>
        obtain ⟨rules, held, other⟩ := (readRules_eq_rulesNotMapping_iff written).mp noRules
        exact .rules isEntry written held other
    · cases unconverted with
      | id isEntry unwritten => exact .identifier isEntry unwritten
      | priority isEntry hasRules written stopped =>
        exact .priority isEntry written (readRules_eq_ok_iff.mp hasRules)
          (readPriority_eq_error_iff.mp stopped)
      | tags isEntry hasRules written ranked stopped =>
        exact .tags isEntry written (readRules_eq_ok_iff.mp hasRules) (readPriority_eq_ok_iff.mp ranked)
          (readTags_eq_error_iff.mp stopped)
  · intro refused
    cases refused with
    | other other => exact .inl ⟨_, rfl, .other other⟩
    | unnamed mapping unnamed => exact .inl ⟨_, rfl, .unnamed mapping unnamed⟩
    | identifier isEntry unwritten => exact .inr (.id isEntry unwritten)
    | rules isEntry written held other =>
      have noRules := (readRules_eq_rulesNotMapping_iff written).mpr ⟨_, held, other⟩
      exact .inl ⟨_, rfl, .rules isEntry written noRules⟩
    | priority isEntry written hasRules stopped =>
      exact .inr (.priority isEntry (readRules_eq_ok_iff.mpr hasRules) written
        (readPriority_eq_error_iff.mpr stopped))
    | tags isEntry written hasRules ranked stopped =>
      exact .inr (.tags isEntry (readRules_eq_ok_iff.mpr hasRules) written
        (readPriority_eq_ok_iff.mpr ranked) (readTags_eq_error_iff.mpr stopped))

end NamedRule

namespace RuleSet

variable {document : Value} {items : List Value} {rules : List NamedRule} {seen : List String}
  {text : String} {f : Fault}

def identifiers (rules : List NamedRule) : List String := rules.map (·.id.display)

@[simp] theorem identifiers_nil : identifiers [] = [] := rfl

@[simp] theorem identifiers_cons (rule : NamedRule) (rules : List NamedRule) :
    identifiers (rule :: rules) = rule.id.display :: identifiers rules := rfl

/-- A document is a mapping that lists entries under `rules`. -/
def Lists (document : Value) (items : List Value) : Prop :=
  ∃ entries listed, NamedRule.ownEntries? document = some entries ∧
    Value.lookup "rules" entries = some listed ∧ listed.untie = .array .list items

/-- The first named rule with the identifier of one before it has a given identifier. -/
def Repeats (rules : List NamedRule) (text : String) : Prop :=
  ∃ before rule after, rules = before ++ rule :: after ∧ (identifiers before).Nodup ∧
    rule.id.display = text ∧ text ∈ identifiers before

/-- Why a document is refused. An empty document of any form is taken for a mapping. -/
inductive Refused (document : Value) : Fault → Prop
  | other : document.truth = true → NamedRule.ownEntries? document = none →
      Refused document (.load .setNotMapping)
  | unlisted : (document.truth = true → ∃ entries, NamedRule.ownEntries? document = some entries) →
      (∀ items, ¬ Lists document items) → Refused document (.load .noRuleList)
  | entry {before after : List Value} {entry : Value} {f : Fault} :
      Lists document (before ++ entry :: after) → (∀ e ∈ before, ∃ rule : NamedRule, rule.WrittenBy e) →
      NamedRule.Refused entry f → Refused document f
  | repeated {items : List Value} {rules : List NamedRule} {text : String} : Lists document items →
      List.Forall₂ (fun entry rule => rule.WrittenBy entry) items rules → Repeats rules text →
      Refused document (.load (.duplicateId text))

theorem truth_of_lists (lists : Lists document items) : document.truth = true := by
  obtain ⟨entries, listed, mapping, held, _⟩ := lists
  unfold NamedRule.ownEntries? at mapping
  unfold Value.truth
  split at mapping
  · simp at mapping
  · rename_i form held' _ untied
    cases mapping
    rw [untied]
    cases entries with
    | nil => simp [Value.lookup] at held
    | cons entry rest => rfl
  · simp at mapping

theorem entriesOf_of_empty (empty : document.truth = false) :
    entriesOf document = .error (.load .noRuleList) := by
  unfold entriesOf
  rw [empty]
  rfl

theorem entriesOf_of_other (full : document.truth = true) (other : NamedRule.ownEntries? document = none) :
    entriesOf document = .error (.load .setNotMapping) := by
  simp [entriesOf, full, other]

theorem entriesOf_of_lists (lists : Lists document items) : entriesOf document = .ok items := by
  have full := truth_of_lists lists
  obtain ⟨entries, listed, mapping, found, untied⟩ := lists
  unfold entriesOf
  simp only [full, if_true, mapping, found, Option.map_some, untied]

theorem entriesOf_of_unlisted
    (mapping : document.truth = true → ∃ entries, NamedRule.ownEntries? document = some entries)
    (unlisted : ∀ items, ¬ Lists document items) : entriesOf document = .error (.load .noRuleList) := by
  cases full : document.truth with
  | false => exact entriesOf_of_empty full
  | true =>
    obtain ⟨entries, mapping⟩ := mapping full
    unfold entriesOf
    simp only [full, if_true, mapping]
    split
    · rename_i held
      obtain ⟨listed, found, untied⟩ := Option.map_eq_some_iff.mp held
      exact absurd ⟨entries, listed, mapping, found, untied⟩ (unlisted _)
    · rfl

theorem lists_or_not (document : Value) : (∃ items, Lists document items) ∨
    (document.truth = true ∧ NamedRule.ownEntries? document = none) ∨
      ((document.truth = true → ∃ entries, NamedRule.ownEntries? document = some entries) ∧
        ∀ items, ¬ Lists document items) := by
  by_cases listing : ∃ items, Lists document items
  · exact .inl listing
  · refine .inr ?_
    cases mapping : NamedRule.ownEntries? document with
    | none =>
      cases full : document.truth with
      | false => exact .inr ⟨by simp, not_exists.mp listing⟩
      | true => exact .inl ⟨rfl, rfl⟩
    | some entries => exact .inr ⟨fun _ => ⟨entries, rfl⟩, not_exists.mp listing⟩

theorem entriesOf_eq_ok_iff : entriesOf document = .ok items ↔ Lists document items := by
  refine ⟨fun read => ?_, entriesOf_of_lists⟩
  rcases lists_or_not document with ⟨items', lists⟩ | ⟨full, other⟩ | ⟨mapping, unlisted⟩
  · rw [entriesOf_of_lists lists] at read
    exact Except.ok.inj read ▸ lists
  · simp [entriesOf_of_other full other] at read
  · simp [entriesOf_of_unlisted mapping unlisted] at read

theorem entriesOf_eq_error_iff : entriesOf document = .error f ↔
    (f = .load .setNotMapping ∧ document.truth = true ∧ NamedRule.ownEntries? document = none) ∨
      (f = .load .noRuleList ∧
        (document.truth = true → ∃ entries, NamedRule.ownEntries? document = some entries) ∧
        ∀ items, ¬ Lists document items) := by
  constructor
  · intro stopped
    rcases lists_or_not document with ⟨items, lists⟩ | ⟨full, other⟩ | ⟨mapping, unlisted⟩
    · simp [entriesOf_of_lists lists] at stopped
    · rw [entriesOf_of_other full other] at stopped
      exact .inl ⟨(Except.error.inj stopped).symm, full, other⟩
    · rw [entriesOf_of_unlisted mapping unlisted] at stopped
      exact .inr ⟨(Except.error.inj stopped).symm, mapping, unlisted⟩
  · rintro (⟨rfl, full, other⟩ | ⟨rfl, mapping, unlisted⟩)
    · exact entriesOf_of_other full other
    · exact entriesOf_of_unlisted mapping unlisted

theorem apart_cons_iff {texts : List String} :
    (text :: texts).Nodup ∧ (text :: texts).Disjoint seen ↔
      text ∉ seen ∧ texts.Nodup ∧ texts.Disjoint (text :: seen) := by
  rw [List.nodup_cons, List.disjoint_cons_left, List.disjoint_cons_right]
  tauto

theorem firstRepeated_eq_none_iff : firstRepeated seen rules = none ↔
    (identifiers rules).Nodup ∧ (identifiers rules).Disjoint seen := by
  induction rules generalizing seen with
  | nil => simp [firstRepeated]
  | cons rule rest ih =>
    rw [identifiers_cons, apart_cons_iff, firstRepeated]
    by_cases known : rule.id.display ∈ seen
    · simp [known]
    · simp [known, ih]

theorem firstRepeated_eq_some_iff : firstRepeated seen rules = some text ↔
    ∃ before rule after, rules = before ++ rule :: after ∧
      ((identifiers before).Nodup ∧ (identifiers before).Disjoint seen) ∧
      rule.id.display = text ∧ (text ∈ identifiers before ∨ text ∈ seen) := by
  induction rules generalizing seen with
  | nil => simp [firstRepeated]
  | cons rule rest ih =>
    rw [firstRepeated, Search.exists_split_cons_iff]
    simp only [identifiers_cons, apart_cons_iff, List.contains_iff_mem, List.mem_cons]
    by_cases known : rule.id.display ∈ seen
    · simp only [known, if_true, Option.some.injEq]
      constructor
      · rintro rfl
        exact .inl ⟨by simp, rfl, .inr known⟩
      · rintro (⟨_, same, _⟩ | ⟨_, _, _, _, ⟨new, _⟩, _⟩)
        · exact same
        · exact absurd trivial new
    · -- The identifier of the first rule is new, so it is one of those before in what follows.
      simp only [known, if_false, ih, List.mem_cons, not_false_eq_true, true_and]
      constructor
      · rintro ⟨before, found, after, split, apart, same, earlier⟩
        exact .inr ⟨before, found, after, split, apart, same, by tauto⟩
      · rintro (⟨_, same, earlier⟩ | ⟨before, found, after, split, apart, same, earlier⟩)
        · rw [same] at known
          simp [known] at earlier
        · exact ⟨before, found, after, split, apart, same, by tauto⟩

theorem firstRepeated_iff_repeats : firstRepeated [] rules = some text ↔ Repeats rules text := by
  simp [firstRepeated_eq_some_iff, Repeats]

theorem mapM_ofValue_eq_ok_iff : items.mapM NamedRule.ofValue = .ok rules ↔
    List.Forall₂ (fun entry rule => rule.WrittenBy entry) items rules := by
  simp only [Search.mapM_eq_ok_iff, NamedRule.ofValue_eq_ok_iff]

theorem ofEntries_eq_ok_iff : ofEntries items = .ok rules ↔
    List.Forall₂ (fun entry rule => rule.WrittenBy entry) items rules ∧ (identifiers rules).Nodup := by
  have apart : firstRepeated [] rules = none ↔ (identifiers rules).Nodup := by
    simp [firstRepeated_eq_none_iff]
  unfold ofEntries
  rw [Search.bind_eq_ok_iff, ← mapM_ofValue_eq_ok_iff, ← apart]
  constructor
  · rintro ⟨read, answer, kept⟩
    split at kept
    · simp at kept
    · rename_i unrepeated
      cases kept
      exact ⟨answer, unrepeated⟩
  · rintro ⟨answer, unrepeated⟩
    refine ⟨rules, answer, ?_⟩
    rw [unrepeated]
    rfl

theorem ofDocument_eq_ok_iff : ofDocument document = .ok rules ↔ ∃ items, Lists document items ∧
    List.Forall₂ (fun entry rule => rule.WrittenBy entry) items rules ∧ (identifiers rules).Nodup := by
  simp only [ofDocument, Search.bind_eq_ok_iff, entriesOf_eq_ok_iff, ofEntries_eq_ok_iff]

theorem ofDocument_eq_error_iff : ofDocument document = .error f ↔ Refused document f := by
  rw [ofDocument, Search.bind_eq_error_iff, entriesOf_eq_error_iff]
  constructor
  · rintro ((⟨rfl, full, other⟩ | ⟨rfl, mapping, unlisted⟩) | ⟨items, listed, stopped⟩)
    · exact .other full other
    · exact .unlisted mapping unlisted
    · have lists := entriesOf_eq_ok_iff.mp listed
      rcases ofEntries_eq_error_iff.mp stopped with stopped | ⟨rules, text, read, repeated, rfl⟩
      · obtain ⟨before, entry, after, rfl, passed, stops⟩ := Search.mapM_eq_error_iff.mp stopped
        simp only [NamedRule.ofValue_eq_ok_iff] at passed
        exact .entry lists passed (NamedRule.ofValue_eq_error_iff_refused.mp stops)
      · exact .repeated lists (mapM_ofValue_eq_ok_iff.mp read) (firstRepeated_iff_repeats.mp repeated)
  · intro refused
    cases refused with
    | other full other => exact .inl (.inl ⟨rfl, full, other⟩)
    | unlisted mapping unlisted => exact .inl (.inr ⟨rfl, mapping, unlisted⟩)
    | entry lists passed stops =>
      simp only [← NamedRule.ofValue_eq_ok_iff] at passed
      refine .inr ⟨_, entriesOf_eq_ok_iff.mpr lists, ofEntries_eq_error_iff.mpr (.inl ?_)⟩
      exact Search.mapM_eq_error_iff.mpr
        ⟨_, _, _, rfl, passed, NamedRule.ofValue_eq_error_iff_refused.mpr stops⟩
    | repeated lists written repeats =>
      refine .inr ⟨_, entriesOf_eq_ok_iff.mpr lists, ofEntries_eq_error_iff.mpr (.inr ?_)⟩
      exact ⟨_, _, mapM_ofValue_eq_ok_iff.mpr written, firstRepeated_iff_repeats.mpr repeats, rfl⟩

end RuleSet

/-- Of documents, exactly those are loaded that list entries, all of which can be read, and no two of which have
one identifier as a text. The named rules are what the entries write, in their order. Any other document is
refused, for the first entry that cannot be read if there is one, and for the first identifier that has
occurred before if all of them can be read. -/
theorem DocumentReader.loadRuleSet_accepts (reader : DocumentReader) (text : String) (document : Value)
    (written : reader text = .ok document) :
    (∀ rules, reader.loadRuleSet text = .ok rules ↔ ∃ items, RuleSet.Lists document items ∧
      List.Forall₂ (fun entry rule => NamedRule.WrittenBy rule entry) items rules ∧
      (RuleSet.identifiers rules).Nodup) ∧
    ∀ f, reader.loadRuleSet text = .error f ↔ RuleSet.Refused document f := by
  rw [loadRuleSet_of_written written]
  exact ⟨fun rules => RuleSet.ofDocument_eq_ok_iff, fun f => RuleSet.ofDocument_eq_error_iff⟩

/-- The identifiers 1 and "1" are one and the same. -/
theorem Yaml.refused_of_one_identifier :
    let text := "\x7b\"rules\": [\x7b\"id\": !!int \"1\"\x7d, \x7b\"id\": \"1\"\x7d]\x7d"
    ∃ document, reader text = .ok document ∧
      reader.loadRuleSet text = .error (.load (.duplicateId "1")) ∧
      RuleSet.Refused document (.load (.duplicateId "1")) := by
  intro text
  have repeated : (reader text).toOption.map (fun document => Fault.of? (RuleSet.ofDocument document)) =
      some (some (Fault.load (.duplicateId "1"))) := by
    decide +kernel
  obtain ⟨document, written, stopped⟩ := Search.exists_of_toOption_map repeated
  have refused : reader.loadRuleSet text = .error (.load (.duplicateId "1")) := by
    rw [DocumentReader.loadRuleSet_of_written written]
    exact Fault.of?_eq_some_iff.mp stopped
  exact ⟨document, written, refused,
    ((DocumentReader.loadRuleSet_accepts reader text document written).2 _).mp refused⟩

end Criteria
