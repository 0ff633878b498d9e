import Criteria.Proofs.Engine.PriorityOrder
import Criteria.Proofs.Rule.Outcome
import Criteria.Rule.Catalog

set_option autoImplicit false
set_option relaxedAutoImplicit false

/-!
# What an engine finds

Each strategy tries the rules in an order and stops where what it finds is settled. All of them find
rules among those that a value satisfies, and a rule that is not satisfied is the same to them as no
rule, also where it nests too deeply.
-/

namespace Criteria

namespace Engine

variable {table : PredicateTable} {o : Options} {v : Value} {toEnd : Bool} {rule : NamedRule}
  {rules order : List NamedRule}

def satisfied (table : PredicateTable) (o : Options) (v : Value) (rules : List NamedRule) :
    List NamedRule :=
  rules.filter fun rule => validate table o v rule.rules matches .ok true

/-- A rule is tried when none of those before it raises a fault or settles what is found. -/
def Tries (table : PredicateTable) (o : Options) (v : Value) (toEnd : Bool) (order : List NamedRule)
    (rule : NamedRule) : Prop :=
  ∃ before after, order = before ++ rule :: after ∧ ∀ earlier ∈ before,
    validate table o v earlier.rules = .ok false ∨
      toEnd = true ∧ validate table o v earlier.rules = .ok true

def settles (table : PredicateTable) (o : Options) (v : Value) (rule : NamedRule) : Bool :=
  (validate table o v rule.rules).toOption != some false

section Scan

theorem outcome_settled_eq_ok_iff {b : Bool} :
    (Criteria.evaluate table o v rule.rules).settled.outcome = .ok b ↔
      validate table o v rule.rules = .ok b := by
  change (validate table o v rule.rules).mapError Stop.fault = _ ↔ _
  cases validate table o v rule.rules <;> simp [Except.mapError]

theorem outcome_scan_of_fault {f : Fault} (raised : validate table o v rule.rules = .error f)
    (rest : List NamedRule) :
    (scan table o v toEnd (rule :: rest)).outcome = .error (.fault f) := by
  have settled : (Criteria.evaluate table o v rule.rules).settled.outcome = .error (.fault f) := by
    change (validate table o v rule.rules).mapError Stop.fault = _
    rw [raised]
    rfl
  rw [scan, Run.outcome_bind, settled]
  rfl

theorem outcome_scan_of_answer {b : Bool} (answer : validate table o v rule.rules = .ok b)
    (rest : List NamedRule) :
    (scan table o v toEnd (rule :: rest)).outcome =
      if b then
        if toEnd then (scan table o v toEnd rest).outcome >>= fun found => .ok (rule :: found)
        else .ok [rule]
      else (scan table o v toEnd rest).outcome := by
  rw [scan, Run.outcome_bind, outcome_settled_eq_ok_iff.mpr answer]
  cases b with
  | false => rfl
  | true =>
    cases toEnd with
    | false => rfl
    | true => exact Run.outcome_bind (scan table o v true rest) fun found => pure (rule :: found)

theorem settles_eq_false_iff :
    settles table o v rule = false ↔ validate table o v rule.rules = .ok false := by
  cases answer : validate table o v rule.rules <;> simp [settles, answer, Except.toOption]

theorem outcome_scan_filter :
    (scan table o v toEnd (rules.filter (settles table o v))).outcome =
      (scan table o v toEnd rules).outcome := by
  induction rules with
  | nil => rfl
  | cons rule rest ih =>
    cases kept : settles table o v rule with
    | false =>
      have unsatisfied := settles_eq_false_iff.mp kept
      rw [List.filter_cons_of_neg (by simp [kept]), ih, outcome_scan_of_answer unsatisfied]
      rfl
    | true =>
      rw [List.filter_cons_of_pos kept]
      cases answer : validate table o v rule.rules with
      | error f => rw [outcome_scan_of_fault answer, outcome_scan_of_fault answer]
      | ok b => rw [outcome_scan_of_answer answer, outcome_scan_of_answer answer, ih]

theorem tries_cons_iff {other : NamedRule} :
    Tries table o v toEnd (other :: order) rule ↔ rule = other ∨
      (validate table o v other.rules = .ok false ∨
        toEnd = true ∧ validate table o v other.rules = .ok true) ∧ Tries table o v toEnd order rule := by
  constructor
  · rintro ⟨before, after, equal, passed⟩
    cases before with
    | nil => exact .inl (List.cons.inj equal).1.symm
    | cons first before =>
      obtain ⟨rfl, rfl⟩ := List.cons.inj equal
      rw [List.forall_mem_cons] at passed
      exact .inr ⟨passed.1, before, after, rfl, passed.2⟩
  · rintro (rfl | ⟨first, before, after, rfl, passed⟩)
    · exact ⟨[], order, rfl, by simp⟩
    · exact ⟨other :: before, after, rfl, List.forall_mem_cons.mpr ⟨first, passed⟩⟩

theorem not_tries_nil : ¬Tries table o v toEnd [] rule := by
  rintro ⟨before, after, equal, _⟩
  simp at equal

theorem Tries.mem (tries : Tries table o v toEnd order rule) : rule ∈ order := by
  obtain ⟨before, after, rfl, _⟩ := tries
  simp

theorem outcome_scan_eq_error_iff {stop : Stop} :
    (scan table o v toEnd order).outcome = .error stop ↔
      ∃ rule f, Tries table o v toEnd order rule ∧ validate table o v rule.rules = .error f ∧
        stop = .fault f := by
  induction order with
  | nil => simp [scan, Run.answer, not_tries_nil]
  | cons other rest ih =>
    simp only [tries_cons_iff]
    cases answer : validate table o v other.rules with
    | error f =>
      rw [outcome_scan_of_fault answer]
      simp [answer, eq_comm]
    | ok b =>
      rw [outcome_scan_of_answer answer]
      cases b with
      | false => simp [answer, ih]
      | true =>
        cases toEnd with
        | false => simp [answer]
        | true => simp [answer, ih, Search.bind_eq_error_iff]

theorem outcome_scan_to_end_eq_ok_iff {found : List NamedRule} :
    (scan table o v true rules).outcome = .ok found ↔
      (∀ r ∈ rules, ∃ b, validate table o v r.rules = .ok b) ∧ found = satisfied table o v rules := by
  induction rules generalizing found with
  | nil => simp [scan, Run.answer, satisfied, eq_comm]
  | cons rule rest ih =>
    rw [List.forall_mem_cons]
    cases answer : validate table o v rule.rules with
    | error f =>
      rw [outcome_scan_of_fault answer]
      simp
    | ok b =>
      rw [outcome_scan_of_answer answer]
      cases b with
      | false => simp [ih, satisfied, answer]
      | true =>
        simp only [↓reduceIte, Search.bind_eq_ok_iff, ih]
        simp [satisfied, answer, eq_comm]

theorem outcome_scan_to_first_eq_ok_iff {found : List NamedRule} :
    (scan table o v false order).outcome = .ok found ↔
      (∀ r ∈ order, validate table o v r.rules = .ok false) ∧ found = [] ∨
        ∃ rule, Tries table o v false order rule ∧ validate table o v rule.rules = .ok true ∧
          found = [rule] := by
  induction order with
  | nil => simp [scan, Run.answer, not_tries_nil, eq_comm]
  | cons other rest ih =>
    simp only [tries_cons_iff, List.forall_mem_cons]
    cases answer : validate table o v other.rules with
    | error f =>
      rw [outcome_scan_of_fault answer]
      simp [answer]
    | ok b =>
      rw [outcome_scan_of_answer answer]
      cases b with
      | false => simp [answer, ih]
      | true => simp [answer, eq_comm]

theorem outcome_scan_to_first (answers : ∀ r ∈ order, ∃ b, validate table o v r.rules = .ok b) :
    (scan table o v false order).outcome = .ok (satisfied table o v order).head?.toList := by
  induction order with
  | nil => rfl
  | cons rule rest ih =>
    rw [List.forall_mem_cons] at answers
    obtain ⟨b, answer⟩ := answers.1
    rw [outcome_scan_of_answer answer]
    cases b with
    | false => simpa [satisfied, answer] using ih answers.2
    | true => simp [satisfied, answer]

theorem scan_append {seen : List NamedRule} (member : rule ∈ seen)
    (settles : validate table o v rule.rules ≠ .ok false) (rest : List NamedRule) :
    scan table o v false (seen ++ rest) = scan table o v false seen := by
  induction seen with
  | nil => cases member
  | cons first seen ih =>
    rw [List.cons_append, scan, scan]
    refine Run.bind_congr_of_outcome fun b answer => ?_
    cases b with
    | true => rfl
    | false =>
      have unsatisfied : validate table o v first.rules = .ok false :=
        outcome_settled_eq_ok_iff.mp answer
      rcases List.mem_cons.mp member with rfl | later
      · exact absurd unsatisfied settles
      · simpa using ih later

end Scan

section Matching

variable {rank : NamedRule → Int} {s : Strategy}

/-- The order in which a strategy tries rules of integer priorities. -/
def Orders (rank : NamedRule → Int) (rules : List NamedRule) : Strategy → List NamedRule → Prop
  | .priority, order => Descending rank rules order
  | _, order => order = rules

theorem exists_scanOrder (ranked : ∀ r ∈ rules, r.priority.number? = some (.int (rank r)))
    (s : Strategy) : ∃ order, scanOrder s rules = .ok order ∧ Orders rank rules s order := by
  cases s with
  | priority => exact ⟨_, byPriority_eq ranked, .insertionSort rank rules⟩
  | _ => exact ⟨rules, rfl, rfl⟩

theorem Orders.mem_iff (orders : Orders rank rules s order) : rule ∈ order ↔ rule ∈ rules := by
  cases s with
  | priority => exact orders.perm.mem_iff
  | _ => rw [show order = rules from orders]

theorem Orders.filter (orders : Orders rank rules s order) (kept : NamedRule → Bool) :
    Orders rank (rules.filter kept) s (order.filter kept) := by
  cases s with
  | priority => exact Descending.filter orders kept
  | _ => exact congrArg (List.filter kept) orders

theorem Orders.unique {order' : List NamedRule} (first : Orders rank rules s order)
    (second : Orders rank rules s order') : order = order' := by
  cases s with
  | priority => exact Descending.unique first second
  | _ => exact Eq.trans first (Eq.symm second)

theorem matching_of_scanOrder (ordered : scanOrder s rules = .ok order) :
    matching table ⟨rules, .text s.name, o⟩ v = scan table o v (s == .allMatch) order := by
  have named : Strategy.ofValue? (.text s.name) = some s := by cases s <;> rfl
  simp only [matching, named, matchUnder, ordered]
  rfl

theorem matching_to_first (notAll : s ≠ .allMatch) (ordered : scanOrder s rules = .ok order) :
    matching table ⟨rules, .text s.name, o⟩ v = scan table o v false order := by
  have stops : (s == .allMatch) = false := beq_eq_false_iff_ne.mpr notAll
  rw [matching_of_scanOrder ordered, stops]

theorem outcome_matching_of_answers
    (ranked : ∀ r ∈ rules, r.priority.number? = some (.int (rank r)))
    (answers : ∀ r ∈ rules, ∃ b, validate table o v r.rules = .ok b) :
    let found (s : Strategy) := (matching table ⟨rules, .text s.name, o⟩ v).outcome
    found .allMatch = .ok (satisfied table o v rules) ∧
      found .firstMatch = .ok (satisfied table o v rules).head?.toList ∧
      ∃ highest, found .priority = .ok highest ∧
        IsHighest rank (satisfied table o v rules) highest := by
  obtain ⟨order, ordered, descending⟩ := exists_scanOrder ranked .priority
  have ordered_answers : ∀ r ∈ order, ∃ b, validate table o v r.rules = .ok b :=
    fun r member => answers r (descending.mem_iff.mp member)
  have satisfied_descending :
      Descending rank (satisfied table o v rules) (satisfied table o v order) :=
    Descending.filter descending _
  intro found
  refine ⟨?_, ?_, (satisfied table o v order).head?.toList, ?_, satisfied_descending.isHighest⟩
  · simp only [found]
    rw [matching_of_scanOrder rfl]
    exact outcome_scan_to_end_eq_ok_iff.mpr ⟨answers, rfl⟩
  · simp only [found]
    rw [matching_to_first (by decide) rfl]
    exact outcome_scan_to_first answers
  · simp only [found]
    rw [matching_to_first (by decide) ordered]
    exact outcome_scan_to_first ordered_answers

theorem matching_congr_of_settles {rules' seen rest rest' : List NamedRule} (notAll : s ≠ .allMatch)
    (settles : validate table o v rule.rules ≠ .ok false)
    (ordered : scanOrder s rules = .ok (seen ++ rule :: rest))
    (ordered' : scanOrder s rules' = .ok (seen ++ rule :: rest')) :
    matching table ⟨rules', .text s.name, o⟩ v = matching table ⟨rules, .text s.name, o⟩ v := by
  have through (after : List NamedRule) :
      scan table o v false (seen ++ rule :: after) = scan table o v false (seen ++ [rule]) := by
    rw [List.append_cons]
    exact scan_append (by simp) settles after
  calc
    _ = scan table o v false (seen ++ [rule]) := by
      rw [matching_to_first notAll ordered', through rest']
    _ = _ := by rw [matching_to_first notAll ordered, through rest]

theorem outcome_evaluate :
    (evaluate table ⟨rules, .text s.name, o⟩ v).outcome =
      (matching table ⟨rules, .text s.name, o⟩ v).outcome >>= fun found =>
        .ok ⟨none, found.map (·.id)⟩ := by
  have named : Strategy.ofValue? (.text s.name) = some s := by cases s <;> rfl
  simp only [matching, evaluate, named, Run.outcome_bind]
  rfl

theorem lookup_toValue (matched : List Value) :
    ∃ entries, Outcome.toValue ⟨none, matched⟩ = .plain entries ∧
      Value.lookup "matches" entries = some (.list matched) ∧
      Value.lookup "matched_count" entries = some (.int matched.length) ∧
      Value.lookup "first_match" entries = some (matched.head?.getD .null) :=
  ⟨_, rfl, rfl, rfl, rfl⟩

theorem outcome_matching_congr {rules' : List NamedRule}
    (ranked : ∀ r ∈ rules, r.priority.number? = some (.int (rank r)))
    (ranked' : ∀ r ∈ rules', r.priority.number? = some (.int (rank r)))
    (same : rules'.filter (settles table o v) = rules.filter (settles table o v)) (s : Strategy) :
    (matching table ⟨rules', .text s.name, o⟩ v).outcome =
      (matching table ⟨rules, .text s.name, o⟩ v).outcome := by
  obtain ⟨order, ordered, orders⟩ := exists_scanOrder ranked s
  obtain ⟨order', ordered', orders'⟩ := exists_scanOrder ranked' s
  -- Both are the one order of what is left of the rules, so the priorities of the others do not matter.
  have equal : order'.filter (settles table o v) = order.filter (settles table o v) := by
    have first := orders'.filter (settles table o v)
    rw [same] at first
    exact first.unique (orders.filter (settles table o v))
  calc
    _ = (scan table o v (s == .allMatch) (order'.filter (settles table o v))).outcome := by
      rw [matching_of_scanOrder ordered', outcome_scan_filter]
    _ = (scan table o v (s == .allMatch) (order.filter (settles table o v))).outcome := by rw [equal]
    _ = _ := by rw [matching_of_scanOrder ordered, outcome_scan_filter]

theorem exists_outcome_matching_error_iff :
    (∃ stop, (matching table ⟨rules, .text Strategy.allMatch.name, o⟩ v).outcome = .error stop) ↔
      ∃ r ∈ rules, ∃ f, validate table o v r.rules = .error f := by
  have scanned : matching table ⟨rules, .text Strategy.allMatch.name, o⟩ v = scan table o v true rules :=
    matching_of_scanOrder rfl
  rw [scanned]
  constructor
  · rintro ⟨stop, stopped⟩
    obtain ⟨r, f, tried, raised, _⟩ := outcome_scan_eq_error_iff.mp stopped
    exact ⟨r, tried.mem, f, raised⟩
  · rintro ⟨r, member, f, raised⟩
    cases outcome : (scan table o v true rules).outcome with
    | error stop => exact ⟨stop, rfl⟩
    | ok found =>
      obtain ⟨b, answer⟩ := (outcome_scan_to_end_eq_ok_iff.mp outcome).1 r member
      rw [raised] at answer
      cases answer

theorem outcome_matching_without {before after : List NamedRule}
    (ranked : ∀ r ∈ before ++ rule :: after, r.priority.number? = some (.int (rank r)))
    (deep : (Criteria.evaluate table o v rule.rules).outcome = .error .tooDeep) :
    validate table o v rule.rules = .ok false ∧ ∀ s : Strategy,
      (matching table ⟨before ++ after, .text s.name, o⟩ v).outcome =
        (matching table ⟨before ++ rule :: after, .text s.name, o⟩ v).outcome := by
  have unsatisfied : validate table o v rule.rules = .ok false := by
    rw [validate, Run.verdict, deep]
  have ranked' : ∀ r ∈ before ++ after, r.priority.number? = some (.int (rank r)) := by
    intro r member
    apply ranked r
    rcases List.mem_append.mp member with earlier | later
    · exact List.mem_append_left _ earlier
    · exact List.mem_append_right _ (List.mem_cons_of_mem rule later)
  have same : (before ++ after).filter (settles table o v) =
      (before ++ rule :: after).filter (settles table o v) := by
    have left : ¬settles table o v rule = true := by simp [settles_eq_false_iff.mpr unsatisfied]
    rw [List.filter_append, List.filter_append, List.filter_cons_of_neg left]
  exact ⟨unsatisfied, outcome_matching_congr ranked ranked' same⟩

/-- The strategies select from the rules that a value satisfies: all of them, the first one, or the
first one of the highest priority. Where rules raise faults, an engine raises the first of those that it
tries, and what stands behind the rule that settles what is found makes no difference. -/
theorem matching_selects (table : PredicateTable) (o : Options) (v : Value) (rules : List NamedRule)
    (rank : NamedRule → Int) (ranked : ∀ r ∈ rules, r.priority.number? = some (.int (rank r))) :
    let verdict (r : NamedRule) := validate table o v r.rules
    let engine (s : Strategy) (rules : List NamedRule) : Engine := ⟨rules, .text s.name, o⟩
    let found (s : Strategy) (rules : List NamedRule) := (matching table (engine s rules) v).outcome
    ((∀ r ∈ rules, ∃ answer, verdict r = .ok answer) →
      found .allMatch rules = .ok (satisfied table o v rules) ∧
      found .firstMatch rules = .ok (satisfied table o v rules).head?.toList ∧
      ∃ highest, found .priority rules = .ok highest ∧
        IsHighest rank (satisfied table o v rules) highest) ∧
    (∀ s, ∃ order, scanOrder s rules = .ok order ∧ Orders rank rules s order ∧
      (∀ stop, found s rules = .error stop ↔ ∃ r f,
        Tries table o v (s == .allMatch) order r ∧ verdict r = .error f ∧ stop = .fault f) ∧
      (s ≠ .allMatch →
        (∀ list, found s rules = .ok list ↔
          (∀ r ∈ rules, verdict r = .ok false) ∧ list = [] ∨
            ∃ r, Tries table o v false order r ∧ verdict r = .ok true ∧ list = [r]) ∧
        ∀ seen r rest rest' rules', order = seen ++ r :: rest → verdict r ≠ .ok false →
          scanOrder s rules' = .ok (seen ++ r :: rest') →
          matching table (engine s rules') v = matching table (engine s rules) v)) ∧
    ((∃ stop, found .allMatch rules = .error stop) ↔ ∃ r ∈ rules, ∃ f, verdict r = .error f) ∧
    (∀ before r after, rules = before ++ r :: after →
      (Criteria.evaluate table o v r.rules).outcome = .error .tooDeep →
      verdict r = .ok false ∧ ∀ s, found s (before ++ after) = found s rules) ∧
    ∀ s,
      (∀ stop, found s rules = .error stop → (evaluate table (engine s rules) v).outcome = .error stop) ∧
      ∀ list, found s rules = .ok list → ∃ entries,
        Outcome.toValue <$> (evaluate table (engine s rules) v).outcome = .ok (.plain entries) ∧
        Value.lookup "matches" entries = some (.list (list.map (·.id))) ∧
        Value.lookup "matched_count" entries = some (.int list.length) ∧
        Value.lookup "first_match" entries = some ((list.head?.map (·.id)).getD .null) := by
  intro verdict engine found
  refine ⟨outcome_matching_of_answers ranked, fun s => ?_, exists_outcome_matching_error_iff, ?_,
    fun s => ⟨?_, ?_⟩⟩
  · obtain ⟨order, ordered, orders⟩ := exists_scanOrder ranked s
    refine ⟨order, ordered, orders, fun stop => ?_, fun notAll => ⟨fun list => ?_, ?_⟩⟩
    · simp only [found, engine]
      rw [matching_of_scanOrder ordered]
      exact outcome_scan_eq_error_iff
    · simp only [found, engine, verdict]
      rw [matching_to_first notAll ordered, outcome_scan_to_first_eq_ok_iff]
      simp only [orders.mem_iff]
    · rintro seen r rest rest' rules' rfl settles ordered'
      exact matching_congr_of_settles notAll settles ordered ordered'
  · rintro before r after rfl deep
    exact outcome_matching_without ranked deep
  · intro stop stopped
    simp only [found, engine] at stopped
    rw [outcome_evaluate, stopped]
    rfl
  · intro list answer
    simp only [found, engine] at answer
    obtain ⟨entries, written, ids, count, head⟩ := lookup_toValue (list.map (·.id))
    rw [List.length_map] at count
    rw [List.head?_map] at head
    rw [outcome_evaluate, answer]
    exact ⟨entries, congrArg Except.ok written, ids, count, head⟩

/-- Two rules of equal priority, one that nests too deeply and, last, one that raises a fault. -/
theorem matching_selects_of_equal_priorities :
    let least : NamedRule := ⟨.text "least", .plain [(.text "gte", .int 1)], .int 1, .text "", .list []⟩
    let deep : NamedRule :=
      ⟨.text "deep", .plain [(.text "not", .plain [(.text "not", .plain [])])], .int 9, .text "", .list []⟩
    let lower : NamedRule := ⟨.text "lower", .plain [(.text "gt", .int 2)], .int 5, .text "", .list []⟩
    let upper : NamedRule := ⟨.text "upper", .plain [(.text "lt", .int 9)], .int 5, .text "", .list []⟩
    let broken : NamedRule :=
      ⟨.text "broken", .function (.custom "boom_runtime"), .int 0, .text "", .list []⟩
    let rank (r : NamedRule) : Int := match r.priority.number? with
      | some (.int n) => n
      | _ => 0
    let found (s : Strategy) (rules : List NamedRule) :=
      (matching Catalog.table ⟨rules, .text s.name, { maxDepth := 1 }⟩ (.int 5)).outcome
    (∀ r ∈ [least, deep, lower, upper, broken], r.priority.number? = some (.int (rank r))) ∧
      found .allMatch [least, deep, lower, upper] = .ok [least, lower, upper] ∧
      found .priority [least, deep, lower, upper] = .ok [lower] ∧
      IsHighest rank [least, lower, upper] [lower] ∧
      (∃ stop, found .allMatch [least, deep, lower, upper, broken] = .error stop) ∧
      ∀ s, found s [least, lower, upper, broken] = found s [least, deep, lower, upper, broken] := by
  intro least deep lower upper broken rank found
  have ranked : ∀ r ∈ [least, deep, lower, upper, broken], r.priority.number? = some (.int (rank r)) := by
    simp only [List.forall_mem_cons]
    exact ⟨rfl, rfl, rfl, rfl, rfl, by simp⟩
  have ranked' : ∀ r ∈ [least, deep, lower, upper], r.priority.number? = some (.int (rank r)) :=
    fun r member => ranked r (List.mem_append_left [broken] member)
  have answers : ∀ r ∈ [least, deep, lower, upper],
      ∃ answer, validate Catalog.table { maxDepth := 1 } (.int 5) r.rules = .ok answer := by
    simp only [List.forall_mem_cons]
    exact ⟨⟨true, rfl⟩, ⟨false, rfl⟩, ⟨true, rfl⟩, ⟨true, rfl⟩, by simp⟩
  have whole := matching_selects Catalog.table { maxDepth := 1 } (.int 5) _ rank ranked
  have sound := matching_selects Catalog.table { maxDepth := 1 } (.int 5) _ rank ranked'
  obtain ⟨all, _, highest, answer, isHighest⟩ := sound.1 answers
  have single : highest = [lower] := (Except.ok.inj answer).symm
  subst single
  refine ⟨ranked, all, answer, isHighest, ?_, ?_⟩
  · exact whole.2.2.1.mpr ⟨broken, by simp, .crash "boom", rfl⟩
  · exact (whole.2.2.2.1 [least] deep [lower, upper, broken] rfl rfl).2

end Matching

end Engine

end Criteria
