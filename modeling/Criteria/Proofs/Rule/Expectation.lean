import Criteria.Proofs.Rule.Outcome
import Criteria.Rule.Catalog

set_option autoImplicit false
set_option relaxedAutoImplicit false

/-!
# What is expected at paths

A `has` that expects collections at paths can be written as a `match` that asks each property to include
some member of its collection or, under `all`, all of them. Where a path leads to nothing, nothing is
included; but nothing includes all members of an empty collection, so that the second way of writing is
for paths that lead somewhere. A path alone is a property that is not undefined.
-/

namespace Criteria

namespace Run

theorem outcome_ofExcept {α : Type} (x : Except Fault α) :
    (ofExcept x).outcome = x.mapError .fault := by
  cases x <;> rfl

end Run

def RuleName.inclusion : Bool → RuleName
  | true => .includesAll
  | false => .includesAny

namespace Value

variable {v expected : Value} {needsAll : Bool}

/-- The argument of a `match` that asks a property for what is expected there, by one rule for all. -/
def askingAt (rule : RuleName) (expectations : List (Value × Value)) : Value :=
  .plain (expectations.map fun e => (e.1, .plain [(.text rule.name, e.2)]))

def includes (v expected : Value) (needsAll : Bool) : Except Fault Bool :=
  if needsAll then v.includesAll expected else v.includesAny expected

theorem isUndefined_iff : v.isUndefined = true ↔ v = .undefined := by
  cases v <;> simp [isUndefined]

theorem kind_eq_undefined_iff : v.kind = .undefined ↔ v = .undefined := by
  constructor
  · intro kind
    unfold Value.kind at kind
    split at kind <;> simp only [reduceCtorEq] at kind
    rename_i untied
    exact eq_of_untie untied (by simp) (by simp) (by simp)
  · rintro rfl
    rfl

theorem includesAny_undefined (expected : Value) : undefined.includesAny expected = .ok false := by
  unfold includesAny
  induction expected.elements with
  | nil => rfl
  | cons member rest ih => exact ih

theorem meets_of_isCollection (collection : expected.kind.isCollection = true)
    (defined : needsAll = true → v.isUndefined = false) :
    v.meets expected needsAll = v.includes expected needsAll := by
  unfold meets includes
  rw [if_pos collection]
  by_cases absent : v.isUndefined = true
  · have some_ : needsAll = false := by
      cases needsAll with
      | false => rfl
      | true => exact absurd absent (by simp [defined rfl])
    have nothing : v.includesAny expected = .ok false := by
      rw [isUndefined_iff.mp absent, includesAny_undefined]
    simp [absent, some_, nothing]
  · rw [if_neg absent]

theorem hasType_undefined (v : Value) : v.hasType .undefined = .ok v.isUndefined := by
  have agree : (v.kind == .undefined) = v.isUndefined := by
    rw [Bool.eq_iff_iff, beq_iff_eq, kind_eq_undefined_iff, isUndefined_iff]
  exact congrArg Except.ok agree

end Value

namespace Evaluation

variable {table : PredicateTable} {o : Options} {left : Nat} {mode : Mode} {path : String}
  {v property : Value} {entries : List (Value × Value)}

theorem hasNamedType_undefined (v : Value) :
    hasNamedType v (.text "undefined") = .ok v.isUndefined := by
  have named : (Value.text "undefined").namedType? = some .undefined := rfl
  have single : hasNamedType v (.text "undefined") = v.checkType (.text "undefined") := rfl
  rw [single, Value.checkType, named]
  exact Value.hasType_undefined v

theorem outcome_judgeProperty_single {rule : RuleName} {argument : Value}
    {test : Value → Except Fault Bool}
    (judged : ∀ found path, (judgeRule o (judge table o left) .default found rule argument path).outcome =
      (test found).mapError .fault) :
    (judgeProperty o (judge table o (left + 1)) v path
        (property, .plain [(.text rule.name, argument)])).outcome =
      (Path.resolve v property o.fallback >>= test).mapError .fault := by
  unfold judgeProperty
  rw [Run.outcome_bind, Run.outcome_ofExcept]
  cases Path.resolve v property o.fallback with
  | error f => rfl
  | ok found =>
    exact (outcome_judge_single rule argument left).trans (judged found _)

theorem outcome_judge_has {expected : Value} (mapping : expected.entries? = some entries) :
    (judge table o (left + 1) v (.ofValue (.plain [(.text "has", expected)])) mode path).outcome =
      (entries.allM (meetsAt o v (mode == .all))).mapError .fault := by
  calc
    _ = (Run.ofExcept (has o mode v expected)).outcome := outcome_judge_single .has expected left
    _ = _ := by rw [Run.outcome_ofExcept, has_of_entries mapping]

theorem outcome_judge_askingAt (needsAll : Bool)
    (collections : ∀ e ∈ entries, e.1.isText = true ∧ e.2.kind.isCollection = true)
    (leads : needsAll = true → ∀ e ∈ entries, Path.isPresent v e.1 o.fallback ≠ .ok false) :
    (judge table o (left + 2) v
        (.ofValue (.plain [(.text "match", .askingAt (.inclusion needsAll) entries)])) mode path).outcome =
      (entries.allM (meetsAt o v needsAll)).mapError .fault := by
  have same : ∀ e ∈ entries, (judgeProperty o (judge table o (left + 1)) v
      (rulePath path (.text "match")) (e.1, .plain [(.text (RuleName.inclusion needsAll).name, e.2)])).outcome =
        (meetsAt o v needsAll e).mapError .fault := by
    intro e member
    obtain ⟨isText, collection⟩ := collections e member
    have judged (found : Value) (path : String) :
        (judgeRule o (judge table o left) .default found (.inclusion needsAll) e.2 path).outcome =
          (found.includes e.2 needsAll).mapError .fault := by
      cases needsAll <;> exact Run.outcome_ofExcept _
    rw [outcome_judgeProperty_single judged, meetsAt, if_pos isText]
    congr 1
    cases resolved : Path.resolve v e.1 o.fallback with
    | error f => rfl
    | ok found =>
      have defined (all : needsAll = true) : found.isUndefined = false := by
        have present := leads all e member
        rw [Path.isPresent, resolved] at present
        simpa [bind, Except.bind, pure, Except.pure] using present
      exact (Value.meets_of_isCollection collection defined).symm
  calc
    _ = (judgeProperties o (judge table o (left + 1)) v (rulePath path (.text "match"))
          (entries.map fun e => (e.1, .plain [(.text (RuleName.inclusion needsAll).name, e.2)]))).outcome :=
      outcome_judge_single .properties (.askingAt (.inclusion needsAll) entries) (left + 1)
    _ = _ := (outcome_judgeProperties _).trans (Search.allM_map_eq_mapError same)

theorem outcome_judgeProperties_singleton {nested : Nested} (entry : Value × Value) :
    (judgeProperties o nested v path [entry]).outcome = (judgeProperty o nested v path entry).outcome := by
  rw [outcome_judgeProperties, Search.allM_singleton]

theorem outcome_judge_notUndefined (p : Value) :
    (judge table o (left + 3) v (.ofValue (.plain [(.text "match", .plain [(p, .plain [(.text "not",
        .plain [(.text "type", .text "undefined")])])])])) mode path).outcome =
      (Path.isPresent v p o.fallback).mapError .fault := by
  have typed (found : Value) (path : String) :
      (judge table o (left + 1) found (.ofValue (.plain [(.text "type", .text "undefined")])) .default
        path).outcome = .ok found.isUndefined := by
    calc
      _ = (Run.ofExcept (hasNamedType found (.text "undefined"))).outcome :=
        outcome_judge_single .type (.text "undefined") left
      _ = _ := by rw [hasNamedType_undefined, Run.outcome_ofExcept]; rfl
  have judged (found : Value) (path : String) :
      (judgeRule o (judge table o (left + 1)) .default found .negation
          (.plain [(.text "type", .text "undefined")]) path).outcome =
        (Except.ok (!found.isUndefined) : Except Fault Bool).mapError .fault := by
    change (judgeNegation (judge table o (left + 1)) found _ path).outcome = _
    rw [judgeNegation_of_isRule (.inl ⟨_, rfl⟩), Run.outcome_bind, typed]
    rfl
  have present : Path.isPresent v p o.fallback =
      (Path.resolve v p o.fallback >>= fun found => .ok (!found.isUndefined)) := rfl
  rw [present, ← outcome_judgeProperty_single judged, ← outcome_judgeProperties_singleton]
  exact outcome_judge_single .properties (.plain [(p, .plain _)]) (left + 2)

end Evaluation

/-- Under valid options a `has` that expects collections at paths comes to the verdict or the fault of a
`match` that asks for some member of each; where no path leads nowhere, a `has` under `all` comes to that of
a `match` that asks for all members. A `has` of one path comes to that of a `match` that the property is not
undefined. -/
theorem evaluate_has_as_match (table : PredicateTable) (o : Options) (v : Value)
    (valid : 1 ≤ o.maxDepth) :
    (∀ expected entries, Value.entries? expected = some entries →
      (∀ e ∈ entries, e.1.isText = true ∧ e.2.kind.isCollection = true) →
      (evaluate table o v (.plain [(.text "has", expected)])).outcome =
          (evaluate table o v (.plain [(.text "match", .askingAt .includesAny entries)])).outcome ∧
        ((∀ e ∈ entries, Path.isPresent v e.1 o.fallback ≠ .ok false) →
          (evaluate table o v (.plain [(.text "all", .plain [(.text "has", expected)])])).outcome =
            (evaluate table o v (.plain [(.text "match", .askingAt .includesAll entries)])).outcome)) ∧
    (2 ≤ o.maxDepth → ∀ p : String,
      (evaluate table o v (.plain [(.text "has", .text p)])).outcome =
        (evaluate table o v (.plain [(.text "match", .plain [(.text p, .plain [(.text "not",
          .plain [(.text "type", .text "undefined")])])])])).outcome) := by
  constructor
  · intro expected entries mapping collections
    obtain ⟨left, levels⟩ : ∃ left, o.maxDepth = left + 1 := ⟨o.maxDepth - 1, by omega⟩
    unfold evaluate
    rw [levels]
    constructor
    · apply (Evaluation.outcome_judge_has mapping).trans
      exact (Evaluation.outcome_judge_askingAt false collections nofun).symm
    · intro leads
      apply (Evaluation.outcome_judge_single .all (.plain [(.text "has", expected)]) (left + 1)).trans
      apply (Evaluation.outcome_judge_has mapping).trans
      exact (Evaluation.outcome_judge_askingAt true collections fun _ => leads).symm
  · intro levels p
    obtain ⟨left, levels⟩ : ∃ left, o.maxDepth = left + 2 := ⟨o.maxDepth - 2, by omega⟩
    unfold evaluate
    rw [levels, Evaluation.outcome_judge_notUndefined]
    calc
      _ = (Run.ofExcept (Evaluation.has o .default v (.text p))).outcome :=
        Evaluation.outcome_judge_single .has (.text p) (left + 2)
      _ = _ := Run.outcome_ofExcept _

theorem evaluate_has_as_match_of_languages :
    let o : Options := { data := some [("region", .text "EU")], maxDepth := 2 }
    let v := Value.plain [(.text "languages", .list [.text "en", .text "fr"])]
    let expectations := [(Value.text "languages", Value.list [.text "fr", .text "de"]),
      (.text "region", .set true [.text "EU"])]
    let has := Value.plain [(.text "has", .plain expectations)]
    let isUndefined := Value.plain [(.text "type", .text "undefined")]
    let outcome (rules : Value) := (evaluate Catalog.table o v rules).outcome
    1 ≤ o.maxDepth ∧ 2 ≤ o.maxDepth ∧
      (∀ e ∈ expectations, e.1.isText = true ∧ e.2.kind.isCollection = true) ∧
      (∀ e ∈ expectations, Path.isPresent v e.1 o.fallback ≠ .ok false) ∧
      (outcome has).toOption = some true ∧
      (outcome (.plain [(.text "all", has)])).toOption = some false ∧
      outcome has = outcome (.plain [(.text "match", .askingAt .includesAny expectations)]) ∧
      outcome (.plain [(.text "all", has)]) =
        outcome (.plain [(.text "match", .askingAt .includesAll expectations)]) ∧
      outcome (.plain [(.text "has", .text "languages.fr")]) =
        outcome (.plain [(.text "match",
          .plain [(.text "languages.fr", .plain [(.text "not", isUndefined)])])]) := by
  intro o v expectations has isUndefined outcome
  have texts : ∀ e ∈ expectations, e.1.isText = true ∧ e.2.kind.isCollection = true := by decide
  have leads : ∀ e ∈ expectations, Path.isPresent v e.1 o.fallback ≠ .ok false := by
    intro e member
    have present : Path.isPresent v e.1 o.fallback = .ok true := by
      simp only [expectations, List.mem_cons, List.not_mem_nil, or_false] at member
      rcases member with rfl | rfl <;> rfl
    simp [present]
  obtain ⟨asMatch, single⟩ := evaluate_has_as_match Catalog.table o v (by decide)
  obtain ⟨someOfEach, allOfEach⟩ := asMatch (.plain expectations) expectations rfl texts
  have overlaps : (outcome has).toOption = some true := by
    simp only [outcome, has, expectations, v, o]
    decide +kernel
  have lacks : (outcome (.plain [(.text "all", has)])).toOption = some false := by
    simp only [outcome, has, expectations, v, o]
    decide +kernel
  exact ⟨by decide, by decide, texts, leads, overlaps, lacks, someOfEach, allOfEach leads,
    single (by decide) "languages.fr"⟩

end Criteria
