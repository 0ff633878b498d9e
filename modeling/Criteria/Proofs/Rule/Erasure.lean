import Criteria.Proofs.Rule.Outcome
import Criteria.Rule.Catalog

set_option autoImplicit false
set_option relaxedAutoImplicit false

/-!
# Rules without unknown names

Where unknown names are allowed they are passed over. Rules can be rid of them at every level, and are
then judged alike: the entries that are left are the ones that are judged, in every mode and at every
depth, so that only the arguments shown in the trace are different.
-/

namespace Criteria

/-- How a value in rules is read: as a rule, as properties with a rule for each, or as it is. -/
inductive Role
  | rule
  | properties
  | plain
  deriving DecidableEq, Repr

def RuleName.role : RuleName → Role
  | .any | .all | .negation => .rule
  | .properties => .properties
  | _ => .plain

namespace Role

/-- How the value of a key is read; there is no telling under an unknown name. -/
def inner? : Role → Value → Option Role
  | .rule, key => (RuleName.ofValue? key).map RuleName.role
  | .properties, _ => some .rule
  | .plain, _ => some .plain

/-- Where a node of a knot has its place when every node is there twice: as a rule and as properties. -/
def place : Role → Nat → Nat
  | .properties, index => 2 * index + 1
  | _, index => 2 * index

end Role

namespace Value

mutual

/-- A value in a role without the unknown names in it. In a knot a link to a node leads to where the
node has that role, and what is read as it is keeps the knot that it was a part of. -/
def erasedAs (knot : Option (List Value)) : Role → Value → Value
  | .plain, v => knot.elim v (within · v)
  | role, .link index => .link (if knot.isSome then role.place index else index)
  | role, .mapping form entries => .mapping form (erasedEntries none role entries)
  | role, .knot nodes root => .knot (erasedNodes nodes nodes) (role.place root)
  | _, v => v

def erasedEntries (knot : Option (List Value)) (role : Role) :
    List (Value × Value) → List (Value × Value)
  | [] => []
  | (key, v) :: rest =>
    match role.inner? key with
    | none => erasedEntries knot role rest
    | some inner => (key, erasedAs knot inner v) :: erasedEntries knot role rest

/-- The nodes of a knot without unknown names, each first as a rule and then as properties. -/
def erasedNodes (nodes : List Value) : List Value → List Value
  | [] => []
  | .mapping form entries :: rest =>
    .mapping form (erasedEntries (some nodes) .rule entries) ::
      .mapping form (erasedEntries (some nodes) .properties entries) :: erasedNodes nodes rest
  | .array form items :: rest =>
    .array form (items.map (within nodes)) :: .array form (items.map (within nodes)) ::
      erasedNodes nodes rest
  | node :: rest => node :: node :: erasedNodes nodes rest

end

/-- Rules without unknown names, at every level. -/
def erased (rules : Value) : Value := rules.erasedAs none .rule

def remainder? (role : Role) (entry : Value × Value) : Option (Value × Value) :=
  (role.inner? entry.1).map fun inner => (entry.1, entry.2.erasedAs none inner)

def erasedNode (nodes : List Value) (role : Role) : Value → Value
  | .mapping form entries => .mapping form (erasedEntries (some nodes) role entries)
  | .array form items => .array form (items.map (within nodes))
  | node => node

section Entries

variable {role : Role}

theorem erasedAs_plain (v : Value) : v.erasedAs none .plain = v := by cases v <;> rfl

theorem erasedEntries_none (entries : List (Value × Value)) :
    erasedEntries none role entries = entries.filterMap (remainder? role) := by
  induction entries with
  | nil => rfl
  | cons entry rest ih =>
    obtain ⟨key, v⟩ := entry
    rw [erasedEntries, ih, List.filterMap_cons, remainder?]
    cases role.inner? key <;> rfl

theorem within_erasedAs (nodes : List Value) (v : Value) :
    within (erasedNodes nodes nodes) (v.erasedAs (some nodes) role) =
      (within nodes v).erasedAs none role := by
  cases role <;> cases v <;> rfl

theorem map_within_erasedEntries (nodes : List Value) (entries : List (Value × Value)) :
    (erasedEntries (some nodes) role entries).map
        (fun (key, v) => (key, within (erasedNodes nodes nodes) v)) =
      (entries.map fun (key, v) => (key, within nodes v)).filterMap (remainder? role) := by
  induction entries with
  | nil => rfl
  | cons entry rest ih =>
    obtain ⟨key, v⟩ := entry
    rw [erasedEntries, List.map_cons, List.filterMap_cons, ← ih, remainder?]
    cases role.inner? key with
    | none => rfl
    | some inner => simp [within_erasedAs]

theorem getElem?_erasedNodes (read : role ≠ .plain) (all nodes : List Value) (index : Nat) :
    (erasedNodes all nodes)[role.place index]? = nodes[index]?.map (erasedNode all role) := by
  induction nodes generalizing index with
  | nil => rfl
  | cons node rest ih =>
    have twice : erasedNodes all (node :: rest) =
        erasedNode all .rule node :: erasedNode all .properties node :: erasedNodes all rest := by
      cases node <;> rfl
    rw [twice]
    cases index with
    | zero => cases role <;> first | rfl | exact absurd rfl read
    | succ index =>
      -- The first node takes two places, whichever of them is asked for further on.
      have later : role.place (index + 1) = role.place index + 2 := by
        cases role <;> simp only [Role.place] <;> omega
      rw [later, List.getElem?_cons_succ, List.getElem?_cons_succ, List.getElem?_cons_succ, ih]

theorem entries?_erasedAs (read : role ≠ .plain) (v : Value) :
    (v.erasedAs none role).entries? = v.entries?.map (·.filterMap (remainder? role)) := by
  cases v with
  | mapping form entries =>
    cases role <;> first | exact congrArg some (erasedEntries_none entries) | exact absurd rfl read
  | knot nodes root =>
    have knot : (Value.knot nodes root).erasedAs none role =
        .knot (erasedNodes nodes nodes) (role.place root) := by
      cases role <;> first | rfl | exact absurd rfl read
    rw [knot, entries?, entries?, untie, untie, getElem?_erasedNodes read]
    cases nodes[root]? with
    | none => rfl
    | some node =>
      cases node with
      | mapping form entries => exact congrArg some (map_within_erasedEntries nodes entries)
      | _ => rfl
  | _ => cases role <;> rfl

end Entries

theorem entries?_erased (rules : Value) :
    rules.erased.entries? = rules.entries?.map (·.filterMap (remainder? .rule)) :=
  entries?_erasedAs (by decide) rules

/-- Rules that hold themselves, under a negation, are left with that negation of what is left. -/
example :
    let rules := knot [.mapping .plain [(.text "colour", .int 1), (.text "not", .link 0)]] 0
    rules.erased.entries? = some [(.text "not", rules.erased)] := rfl

theorem entries?_erasedProperties (asked : Value) :
    (asked.erasedAs none .properties).entries? =
      asked.entries?.map (·.map fun e => (e.1, e.2.erased)) := by
  rw [entries?_erasedAs (by decide)]
  exact congrArg asked.entries?.map List.filterMap_eq_map'

theorem erased_eq_function_iff {rules : Value} {f : FunctionName} :
    rules.erased = .function f ↔ rules = .function f := by
  cases rules <;> simp [erased, erasedAs]

theorem isRule_erased_iff {rules : Value} : rules.erased.IsRule ↔ rules.IsRule := by
  simp only [IsRule, entries?_erased, erased_eq_function_iff]
  cases rules.entries? <;> simp

theorem remainder?_eq_none_iff {entry : Value × Value} :
    remainder? .rule entry = none ↔ RuleName.ofValue? entry.1 = none := by
  simp [remainder?, Role.inner?]

theorem remainder?_eq_some_iff {entry left : Value × Value} :
    remainder? .rule entry = some left ↔
      ∃ name, RuleName.ofValue? entry.1 = some name ∧ (entry.1, entry.2.erasedAs none name.role) = left := by
  simp [remainder?, Role.inner?]

theorem innerRules_erased (rules : Value) : rules.erased.innerRules = rules.innerRules.map erased := by
  unfold innerRules
  rw [entries?_erased]
  cases rules.entries? with
  | none => rfl
  | some entries =>
    simp only [Option.map_some, Option.getD_some]
    induction entries with
    | nil => rfl
    | cons entry rest ih =>
      obtain ⟨key, argument⟩ := entry
      cases named : RuleName.ofValue? key with
      | none =>
        rw [List.filterMap_cons_none (remainder?_eq_none_iff.mpr named), ih, List.flatMap_cons]
        simp [named]
      | some name =>
        rw [List.filterMap_cons_some (remainder?_eq_some_iff.mpr ⟨name, named, rfl⟩),
          List.flatMap_cons, List.flatMap_cons, ih, List.map_append]
        congr 1
        simp only [named]
        cases name with
        | properties =>
          simp only [RuleName.role, entries?_erasedProperties]
          cases argument.entries? <;> simp
        | _ => rfl

theorem exists_of_standsAt_erased {rules node : Value} {level : Nat}
    (standing : rules.erased.StandsAt level node) :
    ∃ whole, rules.StandsAt level whole ∧ node = whole.erased := by
  induction standing with
  | whole => exact ⟨rules, .whole, rfl⟩
  | within outer inside ih =>
    obtain ⟨whole, standing, rfl⟩ := ih
    rw [innerRules_erased] at inside
    obtain ⟨inner, held, rfl⟩ := List.mem_map.mp inside
    exact ⟨inner, standing.within held, rfl⟩

theorem isSome_ofValue?_of_erased {rules node : Value} {level : Nat} {entries : List (Value × Value)}
    (standing : rules.erased.StandsAt level node) (mapping : node.entries? = some entries)
    {entry : Value × Value} (member : entry ∈ entries) : (RuleName.ofValue? entry.1).isSome = true := by
  obtain ⟨whole, _, rfl⟩ := exists_of_standsAt_erased standing
  rw [entries?_erased] at mapping
  obtain ⟨wholeEntries, _, rfl⟩ := Option.map_eq_some_iff.mp mapping
  obtain ⟨whole, _, left⟩ := List.mem_filterMap.mp member
  obtain ⟨name, named, rfl⟩ := remainder?_eq_some_iff.mp left
  exact Option.isSome_of_eq_some named

end Value

namespace RuleNode

theorem ofValue_erased_cases (rules : Value) :
    (∃ entries, ofValue rules = .tree entries ∧
      ofValue rules.erased = .tree (entries.filterMap (Value.remainder? .rule))) ∨
    (∃ f, ofValue rules = .predicate f ∧ ofValue rules.erased = .predicate f) ∨
    (ofValue rules = .malformed rules ∧ ofValue rules.erased = .malformed rules.erased) := by
  rcases ofValue_cases rules with ⟨entries, mapping, tree⟩ | ⟨f, rfl, called⟩ | ⟨malformed, node⟩
  · have left : rules.erased.entries? = some (entries.filterMap (Value.remainder? .rule)) := by
      rw [Value.entries?_erased, mapping, Option.map_some]
    exact .inl ⟨entries, tree, ofValue_of_entries left⟩
  · exact .inr (.inl ⟨f, called, rfl⟩)
  · have malformed' : ¬ rules.erased.IsRule := fun rule => malformed (Value.isRule_erased_iff.mp rule)
    exact .inr (.inr ⟨node, ofValue_of_not_isRule malformed'⟩)

end RuleNode

/-- A judgement of what is left of a rule. -/
def Judgement.erased (j : Judgement) : Judgement :=
  { j with argument := match RuleName.ofName? j.rule with
      | some name => j.argument.erasedAs none name.role
      | none => j.argument }

namespace Run

/-- A run ends as another one does, and judges what is left of what that one judges. -/
structure ErasedTo {α : Type} (r r' : Run α) : Prop where
  outcome : r'.outcome = r.outcome
  trace : r'.trace = r.trace.map Judgement.erased

namespace ErasedTo

variable {α β : Type}

theorem of_no_trace {r : Run α} (silent : r.trace = []) : r.ErasedTo r :=
  ⟨rfl, by rw [silent, List.map_nil]⟩

theorem bind {r r' : Run α} {next next' : α → Run β} (first : r.ErasedTo r')
    (later : ∀ a, (next a).ErasedTo (next' a)) : (r >>= next).ErasedTo (r' >>= next') := by
  cases answer : r.outcome with
  | error s =>
    have answer' : r'.outcome = .error s := first.outcome.trans answer
    refine ⟨?_, ?_⟩
    · rw [outcome_bind, outcome_bind, answer, answer']
      rfl
    · rw [trace_bind_of_error answer, trace_bind_of_error answer', first.trace]
  | ok a =>
    have answer' : r'.outcome = .ok a := first.outcome.trans answer
    refine ⟨?_, ?_⟩
    · rw [outcome_bind, outcome_bind, answer, answer']
      exact (later a).outcome
    · rw [trace_bind_of_ok answer, trace_bind_of_ok answer', List.map_append, first.trace, (later a).trace]

end ErasedTo

end Run

namespace Evaluation

variable {table : PredicateTable} {o : Options} {nested : Nested} {depth : Nat} {mode : Mode}
  {path : String} {v : Value}

def Erases (nested : Nested) : Prop :=
  ∀ v rules mode path,
    (nested v (.ofValue rules) mode path).ErasedTo (nested v (.ofValue rules.erased) mode path)

theorem erasedTo_judgeEntries {judge : Value × Value → Run (Option Bool)}
    {entries : List (Value × Value)}
    (passes : ∀ entry ∈ entries, Value.remainder? .rule entry = none →
      (judge entry).outcome = .ok none ∧ (judge entry).trace = [])
    (each : ∀ entry ∈ entries, ∀ left, Value.remainder? .rule entry = some left →
      (judge entry).ErasedTo (judge left)) :
    (judgeEntries mode judge entries).ErasedTo
      (judgeEntries mode judge (entries.filterMap (Value.remainder? .rule))) := by
  induction entries with
  | nil => exact .of_no_trace rfl
  | cons entry rest ih =>
    have later := ih (fun e member => passes e (List.mem_cons_of_mem entry member))
      (fun e member => each e (List.mem_cons_of_mem entry member))
    cases left : Value.remainder? .rule entry with
    | none =>
      -- An entry that is passed over leaves no judgement, so the rest is all there is.
      obtain ⟨passed, silent⟩ := passes entry List.mem_cons_self left
      rw [List.filterMap_cons_none left, judgeEntries]
      refine ⟨?_, ?_⟩
      · rw [Run.outcome_bind, passed]
        exact later.outcome
      · rw [Run.trace_bind_of_ok passed, silent, List.nil_append]
        exact later.trace
    | some entry' =>
      rw [List.filterMap_cons_some left, judgeEntries, judgeEntries]
      refine (each entry List.mem_cons_self entry' left).bind fun result => ?_
      cases result with
      | none => exact later
      | some b =>
        by_cases settles : (b == (mode == .any)) = true
        · simp only [settles, if_true]
          exact .of_no_trace rfl
        · simp only [settles]
          exact later

theorem erasedTo_judgeProperties (erases : Erases nested) (asked : List (Value × Value)) :
    (judgeProperties o nested v path asked).ErasedTo
      (judgeProperties o nested v path (asked.map fun e => (e.1, e.2.erased))) := by
  induction asked with
  | nil => exact .of_no_trace rfl
  | cons entry rest ih =>
    rw [List.map_cons, judgeProperties, judgeProperties]
    refine .bind (.of_no_trace (Run.trace_ofExcept _)) fun found => ?_
    refine .bind (erases found entry.2 .default _) fun result => ?_
    cases result with
    | true => exact ih
    | false => exact .of_no_trace rfl

theorem erasedTo_judgeNegation (erases : Erases nested) (argument : Value) :
    (judgeNegation nested v argument path).ErasedTo (judgeNegation nested v argument.erased path) := by
  have inside := erases v argument .default path
  unfold judgeNegation
  rcases RuleNode.ofValue_erased_cases argument with
    ⟨_, whole, left⟩ | ⟨_, whole, left⟩ | ⟨whole, left⟩
  · rw [whole, left] at inside ⊢
    exact inside.bind fun result => .of_no_trace rfl
  · rw [whole, left] at inside ⊢
    exact inside.bind fun result => .of_no_trace rfl
  · rw [whole, left]
    exact .of_no_trace rfl

theorem erasedTo_judgeRule (erases : Erases nested) (name : RuleName) (argument : Value) :
    (judgeRule o nested mode v name argument path).ErasedTo
      (judgeRule o nested mode v name (argument.erasedAs none name.role) path) := by
  cases name with
  | any => exact erases v argument .any path
  | all => exact erases v argument .all path
  | negation => exact erasedTo_judgeNegation erases argument
  | properties =>
    simp only [judgeRule, RuleName.role, Value.entries?_erasedProperties]
    cases argument.entries? with
    | none => exact .of_no_trace rfl
    | some asked => exact erasedTo_judgeProperties erases asked
  | _ =>
    -- No other rule has rules in its argument.
    simp only [RuleName.role, Value.erasedAs_plain]
    exact .of_no_trace (Run.trace_ofExcept _)

theorem erasedTo_judgeEntry (erases : Erases nested) {entry left : Value × Value}
    (kept : Value.remainder? .rule entry = some left) :
    (judgeEntry o nested depth mode path v entry).ErasedTo
      (judgeEntry o nested depth mode path v left) := by
  obtain ⟨key, argument⟩ := entry
  obtain ⟨name, named, rfl⟩ := Value.remainder?_eq_some_iff.mp kept
  rw [judgeEntry_of_rule named, judgeEntry_of_rule named]
  refine (erasedTo_judgeRule erases name argument).bind fun result => ?_
  refine ⟨rfl, congrArg (· :: []) ?_⟩
  rw [RuleName.eq_text_of_ofValue? named]
  simp [Judgement.erased, Value.display, RuleName.ofName?_name]

theorem passed_over_judgeEntry (lenient : o.strict = false) {entry : Value × Value}
    (dropped : Value.remainder? .rule entry = none) :
    (judgeEntry o nested depth mode path v entry).outcome = .ok none ∧
      (judgeEntry o nested depth mode path v entry).trace = [] := by
  obtain ⟨key, argument⟩ := entry
  rw [judgeEntry_of_unknown (Value.remainder?_eq_none_iff.mp dropped), lenient]
  exact ⟨rfl, rfl⟩

theorem erases_judgeNode (lenient : o.strict = false) (erases : Erases nested) :
    Erases (judgeNode table o nested depth) := by
  intro v rules mode path
  rcases RuleNode.ofValue_erased_cases rules with
    ⟨entries, whole, left⟩ | ⟨f, whole, left⟩ | ⟨whole, left⟩
  · rw [whole, left]
    exact erasedTo_judgeEntries (fun entry _ dropped => passed_over_judgeEntry lenient dropped)
      (fun entry _ left kept => erasedTo_judgeEntry erases kept)
  · rw [whole, left]
    refine .bind (.of_no_trace (Predicate.trace_judge _ o v)) fun result => ?_
    exact ⟨rfl, rfl⟩
  · rw [whole, left]
    exact ⟨rfl, rfl⟩

theorem erases_judge (lenient : o.strict = false) (left : Nat) : Erases (judge table o left) := by
  induction left with
  | zero => exact fun _ _ _ _ => ⟨rfl, rfl⟩
  | succ left ih => exact erases_judgeNode lenient ih

theorem outcome_judge_of_unknown (lenient : o.strict = false) {rules : Value}
    {entries : List (Value × Value)} (mapping : rules.entries? = some entries)
    (unknown : ∀ entry ∈ entries, RuleName.ofValue? entry.1 = none) (left : Nat) :
    (judge table o (left + 1) v (.ofValue rules) mode path).outcome = .ok (mode != .any) := by
  rw [RuleNode.ofValue_of_entries mapping]
  refine (outcome_judgeEntries_open_iff entries).mpr fun entry member => ?_
  refine ⟨none, ?_, by simp⟩
  rw [outcome_judgeEntry_of_unknown (unknown entry member), lenient]
  rfl

end Evaluation

/-- Where unknown names are allowed, rules without them are judged alike: to the same verdict, by the
same fault or too deeply nested, and with the same judgements but for the arguments, in which there are
no unknown names either. Rules of unknown names only are as satisfied as none, which are satisfied on
their own and not under `any`. -/
theorem evaluate_erased (table : PredicateTable) (o : Options) (v rules : Value)
    (lenient : o.strict = false) :
    (evaluate table o v rules.erased).outcome = (evaluate table o v rules).outcome ∧
    (evaluate table o v rules.erased).trace = (evaluate table o v rules).trace.map Judgement.erased ∧
    (∀ level node entries, rules.erased.StandsAt level node → node.entries? = some entries →
      ∀ entry ∈ entries, (RuleName.ofValue? entry.1).isSome = true) ∧
    ∀ entries, rules.entries? = some entries →
      (∀ entry ∈ entries, RuleName.ofValue? entry.1 = none) →
      rules.erased.entries? = some [] ∧ validate table o v rules = .ok true ∧
        validate table o v (.plain [(.text "any", rules)]) = .ok false := by
  have same : (evaluate table o v rules).ErasedTo (evaluate table o v rules.erased) :=
    Evaluation.erases_judge lenient (o.maxDepth + 1) v rules .default ""
  refine ⟨same.outcome, same.trace, ?_, ?_⟩
  · intro level node entries standing mapping entry member
    exact Value.isSome_ofValue?_of_erased standing mapping member
  · intro entries mapping unknown
    refine ⟨?_, ?_, ?_⟩
    · rw [Value.entries?_erased, mapping, Option.map_some, Option.some.injEq, List.filterMap_eq_nil_iff]
      exact fun entry member => Value.remainder?_eq_none_iff.mpr (unknown entry member)
    · have outcome : (evaluate table o v rules).outcome = .ok true :=
        Evaluation.outcome_judge_of_unknown lenient mapping unknown o.maxDepth
      rw [validate, Run.verdict, outcome]
    · have single : (evaluate table o v (.plain [(.text "any", rules)])).outcome =
          (Evaluation.judge table o o.maxDepth v (.ofValue rules) .any "any").outcome :=
        Evaluation.outcome_judge_single .any rules o.maxDepth
      rw [validate, Run.verdict, single]
      cases o.maxDepth with
      | zero => rfl
      | succ left => rw [Evaluation.outcome_judge_of_unknown lenient mapping unknown left]; rfl

/-- Names of colours are unknown, at the top, under a negation and for a property; and under `any`, where
nothing else is. -/
theorem evaluate_erased_of_colours :
    let v := Value.plain [(.text "name", .text "Matt")]
    let idle := [(Value.text "hue", Value.int 3)]
    let known := [(Value.text "type", Value.text "string")]
    let rules := Value.plain [(.text "colour", .int 1),
      (.text "not", .plain ((.text "shade", .int 2) :: known)),
      (.text "match", .plain [(.text "name", .plain (known ++ [(.text "tint", .null)]))]),
      (.text "any", .plain idle)]
    let left := Value.plain [(.text "not", .plain known),
      (.text "match", .plain [(.text "name", .plain known)]), (.text "any", .plain [])]
    let o : Options := {}
    o.strict = false ∧ rules.erased = left ∧
      (evaluate Catalog.table o v left).trace = (evaluate Catalog.table o v rules).trace.map .erased ∧
      (evaluate Catalog.table o v rules).trace.map (·.result) = [false, true, true, true, false] ∧
      validate Catalog.table o v (.plain idle) = .ok true ∧
      validate Catalog.table o v (.plain [(.text "any", .plain idle)]) = .ok false := by
  intro v idle known rules left o
  have whole := evaluate_erased Catalog.table o v rules rfl
  have unknown : ∀ entry ∈ idle, RuleName.ofValue? entry.1 = none := by
    intro entry member
    rw [List.mem_singleton.mp member]
    rfl
  have passed := (evaluate_erased Catalog.table o v (.plain idle) rfl).2.2.2 idle rfl unknown
  exact ⟨rfl, rfl, whole.2.1, rfl, passed.2⟩

end Criteria
