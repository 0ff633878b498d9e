import Criteria.Proofs.Rule.Outcome
import Criteria.Proofs.Value.Path
import Criteria.Rule.Catalog

set_option autoImplicit false
set_option relaxedAutoImplicit false

/-!
# Where faults come from

No argument of the wrong kind stops an evaluation. What can is listed in `FaultSource`: a predicate, a
number out of range, an attribute that cannot be read, an overlong index in a path, and a pattern that
cannot be searched for. Beyond these it is only where containers that hold themselves are compared with each
other that an evaluation may run out of resources. What is judged on the way is a part of the value or of the
fallback data, and `Options.Draws` is what a path keeps of that.
-/

namespace Criteria

def Options.Reaches (o : Options) (v w : Value) : Prop :=
  v.Holds w ∨ ∃ data, o.fallback = some data ∧ data.Holds w

/-- All that is risky in the value judged now occurs in the value given or in the fallback data. -/
def Options.Draws (o : Options) (v current : Value) : Prop :=
  ∀ w, w.IsRisky → current.Holds w → o.Reaches v w

def Pattern.IsCompiled (p : Pattern) : Prop := ofSource p.source p.flags = .ok p

/-- A path that rules ask for: an argument of `has` or an item of it, or a key under `has` or `match`. -/
inductive Value.AsksPath (rules : Value) (path : String) : Prop
  | argument : rules.Asks .has (.text path) → AsksPath rules path
  | item {argument : Value} {items : List Value} :
      rules.Asks .has argument → argument.items? = some items → .text path ∈ items →
      AsksPath rules path
  | key {name : RuleName} {argument expected : Value} {entries : List (Value × Value)} :
      rules.Asks name argument → name = .has ∨ name = .properties →
      argument.entries? = some entries → (.text path, expected) ∈ entries → AsksPath rules path

/-- The places that a fault of an evaluation can come from. -/
inductive FaultSource (o : Options) (v rules : Value) : Fault → Prop
  | predicate {level : Nat} {g : FunctionName} {f : Fault} :
      rules.StandsAt level (.function g) → FaultSource o v rules f
  | number {n : Number} {f : Fault} :
      n.OutOfRange f → (o.Reaches v (.number n) ∨
        ∃ name argument, rules.Asks name argument ∧ argument.Holds (.number n)) →
      FaultSource o v rules f
  | unreadable {attributes : List (String × Value)} {broken : List String} {name : String} :
      o.Reaches v (.object attributes broken) → name ∈ broken →
      FaultSource o v rules (.brokenAttribute name)
  | digits {path segment : String} :
      rules.AsksPath path → segment ∈ Path.segments path → Path.isIndex segment = true →
      digitLimit < segment.toList.length →
      FaultSource o v rules (.tooManyDigits segment.toList.length)
  | bytesPattern {p : Pattern} {b : List UInt8} :
      rules.Asks (.comparison .matches) (.pattern p) → p.source = .bytes b →
      FaultSource o v rules .wrongType
  | unreadPattern {source : String} {f : Fault} :
      rules.Asks (.comparison .matches) (.text source) →
      Pattern.read source.toList {} = .error (.fault f) → FaultSource o v rules f
  | keys {f : Fault} : ¬ rules.HasTextKeys → FaultSource o v rules f

/-- A container that holds itself occurs in the value or in the fallback data, and one in the argument of a
rule. -/
def Options.Entangles (o : Options) (v rules : Value) : Prop :=
  (∃ nodes root, o.Reaches v (.knot nodes root)) ∧
    ∃ name argument nodes root, rules.Asks name argument ∧ argument.Holds (.knot nodes root)

def Fault.Explained (o : Options) (v rules : Value) (f : Fault) : Prop :=
  FaultSource o v rules f ∨ f = .endless ∧ o.Entangles v rules

variable {o : Options} {v current rules argument path : Value} {f : Fault}

theorem Options.Draws.refl (o : Options) (v : Value) : o.Draws v v := fun _ _ held => .inl held

theorem Options.Draws.data {data : Value} (present : o.fallback = some data) (v : Value) :
    o.Draws v data :=
  fun _ _ held => .inr ⟨data, present, held⟩

theorem Options.Draws.covers {next : Value} (drawn : o.Draws v current)
    (covered : current.Covers next) : o.Draws v next :=
  fun w risky held => drawn w risky (covered w risky held)

theorem Options.Draws.resolve {next : Value} (drawn : o.Draws v current)
    (selected : Path.resolve current path o.fallback = .ok next) : o.Draws v next := by
  rcases Path.resolve_covers selected with covered | ⟨data, present, covered⟩
  · exact drawn.covers covered
  · exact (Options.Draws.data present v).covers covered

theorem Pattern.read_of_search {p : Pattern} {text : String} (stopped : p.search text = .error f) :
    (∃ b, p.source = .bytes b ∧ f = .wrongType) ∨
      ∃ s, p.source = .text s ∧ read s.toList p.flags = .error (.fault f) := by
  unfold search at stopped
  split at stopped
  · rename_i b bytes
    exact .inl ⟨b, bytes, (Except.error.inj stopped).symm⟩
  · rename_i s source
    split at stopped
    · simp at stopped
    · simp at stopped
    · rename_i fault failed
      have unread : read s.toList p.flags = .error (.fault fault) :=
        Search.eq_error_of_bind_pure failed
      exact .inr ⟨s, source, by rw [unread, Except.error.inj stopped]⟩

namespace Fault.Explained

theorem of_outOfRange {n : Number} (drawn : o.Draws v current) (held : current.Holds (.number n))
    (large : n.OutOfRange f) : f.Explained o v rules :=
  .inl (.number large (.inl (drawn _ (.number large) held)))

theorem of_meetsLimit {name : RuleName} {expected : Value} (drawn : o.Draws v current)
    (asked : rules.Asks name argument) (within : argument.Holds expected)
    (met : current.MeetsLimit expected f) : f.Explained o v rules := by
  cases met with
  | number large held =>
    rcases held with inValue | inArgument
    · exact of_outOfRange drawn inValue large
    · exact .inl (.number large (.inr ⟨name, argument, asked, within.trans inArgument⟩))
  | @knots nodes nodes' root root' inValue inArgument =>
    exact .inr ⟨rfl, ⟨nodes, root, drawn _ (.knot nodes root) inValue⟩,
      name, argument, nodes', root', asked, within.trans inArgument⟩

theorem of_obstacle {text : String} (drawn : o.Draws v current) (asked : rules.AsksPath text)
    (met : Path.Obstacle current (Path.segments text) f) : f.Explained o v rules := by
  cases met with
  | unreadable held member => exact .inl (.unreadable (drawn _ (.object ..) held) member)
  | digits member written long => exact .inl (.digits asked member written long)

theorem of_resolve (drawn : o.Draws v current)
    (asked : ∀ text, path = .text text → rules.AsksPath text)
    (stopped : Path.resolve current path o.fallback = .error f) : f.Explained o v rules := by
  obtain ⟨text, isText, met | ⟨data, present, met⟩⟩ := Path.obstacle_of_resolve stopped
  · exact of_obstacle drawn (asked text isText) met
  · exact of_obstacle (.data present v) (asked text isText) met

theorem of_hasNamedType (drawn : o.Draws v current)
    (stopped : Evaluation.hasNamedType current argument = .error f) : f.Explained o v rules := by
  have of_checkType {name : Value} (failed : current.checkType name = .error f) :
      f.Explained o v rules := by
    obtain ⟨n, rfl, large⟩ := Value.outOfRange_of_checkType failed
    exact of_outOfRange drawn (.self _) large
  unfold Evaluation.hasNamedType at stopped
  split at stopped
  · obtain ⟨name, _, failed⟩ := Search.exists_of_anyM stopped (by simp)
    exact of_checkType failed
  · exact of_checkType stopped

theorem of_isAt (drawn : o.Draws v current)
    (asked : ∀ text, path = .text text → rules.AsksPath text)
    (stopped : Evaluation.isAt o current path = .error f) : f.Explained o v rules := by
  unfold Evaluation.isAt at stopped
  split at stopped
  · exact of_resolve drawn asked (Path.resolve_of_isPresent stopped)
  · simp at stopped

theorem of_meetsAt {needsAll : Bool} {entries : List (Value × Value)} {entry : Value × Value}
    (drawn : o.Draws v current) (asked : rules.Asks .has argument)
    (mapping : argument.entries? = some entries) (member : entry ∈ entries)
    (stopped : Evaluation.meetsAt o current needsAll entry = .error f) :
    f.Explained o v rules := by
  obtain ⟨path, expected⟩ := entry
  unfold Evaluation.meetsAt at stopped
  split at stopped
  · rcases Search.bind_eq_error_iff.mp stopped with unresolved | ⟨found, selected, failed⟩
    · refine of_resolve drawn (fun text isText => ?_) unresolved
      exact .key asked (.inl rfl) mapping (by rwa [← isText])
    · have within : argument.Holds expected := by
        refine .part ?_ (.self expected)
        simp only [Value.parts, mapping, Option.getD_some, List.mem_append, List.mem_map]
        exact .inl (.inr ⟨_, member, rfl⟩)
      exact of_meetsLimit (drawn.resolve selected) asked within (Value.meetsLimit_of_meets failed)
  · simp at stopped

theorem of_has {mode : Mode} (drawn : o.Draws v current) (asked : rules.Asks .has argument)
    (stopped : Evaluation.has o mode current argument = .error f) : f.Explained o v rules := by
  have of_item {items : List Value} {item : Value} (array : argument.items? = some items)
      (member : item ∈ items) (failed : Evaluation.isAt o current item = .error f) :
      f.Explained o v rules :=
    of_isAt drawn (fun _ isText => .item asked array (isText ▸ member)) failed
  unfold Evaluation.has at stopped
  split at stopped
  · exact of_isAt drawn (fun _ isText => .argument (isText ▸ asked)) stopped
  · rename_i items _ array
    split at stopped
    · obtain ⟨item, member, failed⟩ := Search.exists_of_allM stopped (by simp)
      exact of_item array member failed
    · obtain ⟨item, member, failed⟩ := Search.exists_of_anyM stopped (by simp)
      exact of_item array member failed
  · rename_i entries _ _ mapping
    obtain ⟨entry, member, failed⟩ := Search.exists_of_allM stopped (by simp)
    exact of_meetsAt drawn asked mapping member failed
  · simp at stopped

theorem of_isFound
    (compiled : ∀ p, rules.Asks (.comparison .matches) (.pattern p) → p.IsCompiled)
    (asked : rules.Asks (.comparison .matches) argument)
    (stopped : Comparison.isFound current argument = .error f) : f.Explained o v rules := by
  unfold Comparison.isFound at stopped
  split at stopped
  · rename_i text p
    rcases Pattern.read_of_search stopped with ⟨b, bytes, rfl⟩ | ⟨source, written, unread⟩
    · exact .inl (.bytesPattern asked bytes)
    · have again : Pattern.ofSource p.source p.flags = .ok p := compiled p asked
      simp [Pattern.ofSource, PatternSource.chars, PatternSource.isText, written, unread, bind, Except.bind] at again
  · rename_i text source
    rcases Pattern.read_of_search stopped with ⟨b, bytes, _⟩ | ⟨s, written, unread⟩
    · simp at bytes
    · rw [← PatternSource.text.inj written] at unread
      exact .inl (.unreadPattern asked unread)
  · simp at stopped

theorem of_holds {c : Comparison}
    (compiled : ∀ p, rules.Asks (.comparison .matches) (.pattern p) → p.IsCompiled)
    (drawn : o.Draws v current) (asked : rules.Asks (.comparison c) argument)
    (stopped : c.holds current argument = .error f) : f.Explained o v rules := by
  cases c with
  | equal => exact of_meetsLimit drawn asked (.self _) (Value.meetsLimit_of_strictEquals stopped)
  | notEqual =>
    have failed : current.strictEquals argument = .error f := Search.eq_error_of_bind_pure stopped
    exact of_meetsLimit drawn asked (.self _) (Value.meetsLimit_of_strictEquals failed)
  | «matches» => exact of_isFound compiled asked stopped
  | _ => simp [Comparison.holds] at stopped

theorem of_ofExcept {α : Type} {x : Except Fault α}
    (stopped : (Run.ofExcept x).outcome = .error (.fault f))
    (source : x = .error f → f.Explained o v rules) : f.Explained o v rules := by
  obtain ⟨fault, failed, same⟩ := Run.outcome_ofExcept_eq_error_iff.mp stopped
  apply source
  rw [failed, Stop.fault.inj same]

section Judging

variable {table : PredicateTable} {nested : Evaluation.Nested} {mode : Mode} {shown : String}

theorem of_judgeProperties {entries : List (Value × Value)} (drawn : o.Draws v current)
    (asked : rules.Asks .properties argument) (mapping : argument.entries? = some entries)
    (deeper : ∀ property inner found mode shown, (property, inner) ∈ entries → o.Draws v found →
      (nested found (.ofValue inner) mode shown).outcome = .error (.fault f) →
      f.Explained o v rules)
    (stopped : (Evaluation.judgeProperties o nested current shown entries).outcome
      = .error (.fault f)) : f.Explained o v rules := by
  rw [Evaluation.outcome_judgeProperties] at stopped
  obtain ⟨⟨property, inner⟩, member, failed⟩ := Search.exists_of_allM stopped (by simp)
  rcases Run.outcome_bind_eq_error_iff.mp failed with unresolved | ⟨found, selected, onward⟩
  · refine of_ofExcept unresolved (of_resolve drawn fun text isText => ?_)
    exact .key asked (.inr rfl) mapping (by rwa [← isText])
  · have resolved := Run.outcome_ofExcept_eq_ok_iff.mp selected
    exact deeper property inner found _ _ member (drawn.resolve resolved) onward

theorem of_judgeRule {node key : Value} {level : Nat} {name : RuleName}
    {entries : List (Value × Value)}
    (compiled : ∀ p, rules.Asks (.comparison .matches) (.pattern p) → p.IsCompiled)
    (standing : rules.StandsAt level node) (drawn : o.Draws v current)
    (mapping : node.entries? = some entries) (member : (key, argument) ∈ entries)
    (named : RuleName.ofValue? key = some name)
    (deeper : ∀ inner found mode shown, inner ∈ node.innerRules → o.Draws v found →
      (nested found (.ofValue inner) mode shown).outcome = .error (.fault f) →
      f.Explained o v rules)
    (stopped : (Evaluation.judgeRule o nested mode current name argument shown).outcome
      = .error (.fault f)) : f.Explained o v rules := by
  have asked : rules.Asks name argument :=
    ⟨level, node, entries, key, standing, mapping, member, named⟩
  have inside (nesting : name ∈ [RuleName.any, .all, .negation]) : argument ∈ node.innerRules :=
    Value.argument_mem_innerRules mapping member named nesting
  cases name with
  | type => exact of_ofExcept stopped (of_hasNamedType drawn)
  | has => exact of_ofExcept stopped (of_has drawn asked)
  | any => exact deeper argument current _ _ (inside (by simp)) drawn stopped
  | all => exact deeper argument current _ _ (inside (by simp)) drawn stopped
  | negation =>
    simp only [Evaluation.judgeRule, Evaluation.judgeNegation] at stopped
    split at stopped
    · simp at stopped
    · rcases Run.outcome_bind_eq_error_iff.mp stopped with failed | ⟨result, _, answered⟩
      · exact deeper argument current _ _ (inside (by simp)) drawn failed
      · simp at answered
  | properties =>
    simp only [Evaluation.judgeRule] at stopped
    split at stopped
    · rename_i properties held
      refine of_judgeProperties drawn asked held ?_ stopped
      intro property inner found mode shown propertyMember drawnFound failed
      exact deeper inner found mode shown
        (Value.property_mem_innerRules mapping member named held propertyMember) drawnFound failed
    · simp at stopped
  | includesAny =>
    exact of_ofExcept stopped fun failed =>
      of_meetsLimit drawn asked (.self _) (Value.meetsLimit_of_includesAny failed)
  | includesAll =>
    exact of_ofExcept stopped fun failed =>
      of_meetsLimit drawn asked (.self _) (Value.meetsLimit_of_includesAll failed)
  | comparison c => exact of_ofExcept stopped (of_holds compiled drawn asked)

/-- What stops an evaluation comes from a listed place. The value judged changes from level to level,
but it is drawn from the value given and the fallback data. -/
theorem of_judge {left level : Nat} {node : Value}
    (compiled : ∀ p, rules.Asks (.comparison .matches) (.pattern p) → p.IsCompiled)
    (standing : rules.StandsAt level node) (drawn : o.Draws v current)
    (stopped : (Evaluation.judge table o left current (.ofValue node) mode shown).outcome
      = .error (.fault f)) : f.Explained o v rules := by
  induction left generalizing level node current mode shown with
  | zero => simp at stopped
  | succ left ih =>
    rcases RuleNode.ofValue_cases node with
      ⟨entries, mapping, tree⟩ | ⟨g, rfl, _⟩ | ⟨_, malformed⟩
    · simp only [Evaluation.judge_succ, Evaluation.judgeNode, tree] at stopped
      -- One entry has stopped the tree, and it names a rule: a name that is unknown stops nothing.
      obtain ⟨⟨key, argument⟩, member, failed⟩ :=
        Evaluation.exists_of_outcome_judgeEntries_error stopped
      cases named : RuleName.ofValue? key with
      | none => simp [Evaluation.outcome_judgeEntry_of_unknown named] at failed
      | some name =>
        rw [Evaluation.outcome_judgeEntry_of_rule named] at failed
        refine of_judgeRule compiled standing drawn mapping member named ?_
          (Search.eq_error_of_map failed)
        intro inner found mode shown inside drawnFound stoppedInside
        exact ih (standing.within inside) drawnFound stoppedInside
    · exact .inl (.predicate standing)
    · simp [Evaluation.judge_succ, malformed] at stopped

end Judging

end Fault.Explained

/-- An evaluation answers, unless what stops it comes from a listed place or, the resources being limited, is a
comparison without end, for which a container that holds itself has to occur in the value or in the fallback
data and one in an argument. Rules nested too deeply are answered with a failure. -/
theorem validate_answers_or_faultSource (table : PredicateTable) (o : Options) (v rules : Value)
    (compiled : ∀ p, rules.Asks (.comparison .matches) (.pattern p) → p.IsCompiled) :
    ((∃ b, validate table o v rules = .ok b) ∨
      (∃ f, validate table o v rules = .error f ∧ FaultSource o v rules f) ∨
      validate table o v rules = .error .endless ∧ o.Entangles v rules) ∧
    ((evaluate table o v rules).outcome = .error .tooDeep →
      validate table o v rules = .ok false) := by
  refine ⟨?_, fun deep => by simp [validate, Run.verdict, deep]⟩
  cases answer : (evaluate table o v rules).outcome with
  | ok b => exact .inl ⟨b, by simp [validate, Run.verdict, answer]⟩
  | error s =>
    cases s with
    | tooDeep => exact .inl ⟨false, by simp [validate, Run.verdict, answer]⟩
    | fault f =>
      have stopped : validate table o v rules = .error f := by simp [validate, Run.verdict, answer]
      rcases Fault.Explained.of_judge compiled .whole (.refl o v) answer with listed | ⟨rfl, entangled⟩
      · exact .inr (.inl ⟨f, stopped, listed⟩)
      · exact .inr (.inr ⟨stopped, entangled⟩)

/-- A path meets an attribute that cannot be read, before a pattern is searched for. -/
theorem faultSource_of_broken_name :
    let v := Value.object [] ["name"]
    let rules := Value.plain
      [(.text "has", .text "name"), (.text "matches", .pattern ⟨.text "a+", {}⟩)]
    (∀ p, rules.Asks (.comparison .matches) (.pattern p) → p.IsCompiled) ∧
      ∃ f, validate Catalog.table {} v rules = .error f ∧ FaultSource {} v rules f := by
  intro v rules
  have compiled : ∀ p, rules.Asks (.comparison .matches) (.pattern p) → p.IsCompiled := by
    rintro p ⟨level, node, entries, key, standing, mapping, member, named⟩
    rcases standing.eq_or_within with rfl | ⟨inner, inside, _⟩
    · rw [← Option.some.inj mapping] at member
      simp only [List.mem_cons, List.not_mem_nil, or_false, Prod.mk.injEq, reduceCtorEq, and_false,
        Value.pattern.injEq, false_or] at member
      rw [member.2]
      rfl
    · change inner ∈ [] at inside
      simp at inside
  refine ⟨compiled, ?_⟩
  have stopped : validate Catalog.table {} v rules = .error (.brokenAttribute "name") := rfl
  rcases (validate_answers_or_faultSource Catalog.table {} v rules compiled).1 with
    ⟨b, answered⟩ | source | ⟨endless, _⟩
  · simp [stopped] at answered
  · exact source
  · simp [stopped, Fault.endless] at endless

end Criteria
