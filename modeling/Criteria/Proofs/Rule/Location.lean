import Criteria.Proofs.Path.Selection
import Criteria.Proofs.Rule.Displacement

set_option autoImplicit false
set_option relaxedAutoImplicit false

/-!
# Where judgements stand

The path of a judgement is a way through the rules: followed key by key, it ends at the argument that was
judged. A rule and a predicate in its place have one path, but stand at different depths, so that path and depth
tell all judgements of an evaluation apart.
-/

namespace Criteria

namespace Value

/-- The keys of entries are texts without dots, and as in any mapping no two are the same. -/
structure SimpleKeys (entries : List (Value × Value)) : Prop where
  undotted : ∀ e ∈ entries, ∃ key, e.1 = .text key ∧ '.' ∉ key.toList
  distinct : entries.Pairwise fun e e' => e.1 ≠ e'.1

/-- The names of rules are simple keys, and so are the properties under `match`, not looking further in. -/
structure NamesSimply (rules : Value) : Prop where
  names : ∀ entries, rules.entries? = some entries → SimpleKeys entries
  properties : ∀ entries key argument asked, rules.entries? = some entries → (key, argument) ∈ entries →
    RuleName.ofValue? key = some .properties → argument.entries? = some asked → SimpleKeys asked

/-- At every level the names of rules and the properties under `match` are simple keys. -/
def HasSimpleKeys (rules : Value) : Prop := ∀ level node, rules.StandsAt level node → node.NamesSimply

def descend? : Value → List String → Option Value
  | v, [] => some v
  | v, key :: rest => do descend? (← lookup key (← v.entries?)) rest

variable {rules node argument : Value} {entries : List (Value × Value)} {key : String} {route : List String}

theorem HasSimpleKeys.of_innerRules (here : rules.NamesSimply)
    (inner : ∀ inner ∈ rules.innerRules, inner.HasSimpleKeys) : rules.HasSimpleKeys := by
  intro level node standing
  rcases standing.eq_or_within with rfl | ⟨outer, step, deeper, later⟩
  · exact here
  · exact inner outer step deeper node later

theorem descend?_append (v : Value) (route more : List String) :
    v.descend? (route ++ more) = v.descend? route >>= fun inner => inner.descend? more := by
  induction route generalizing v with
  | nil => rfl
  | cons key rest ih =>
    simp only [List.cons_append, descend?, bind_assoc]
    refine bind_congr fun entries => bind_congr fun inner => ?_
    exact ih inner

theorem SimpleKeys.of_texts (names : List String) (texts : entries.map Prod.fst = names.map Value.text)
    (undotted : ∀ name ∈ names, '.' ∉ name.toList) (nodup : names.Nodup) : SimpleKeys entries := by
  constructor
  · intro e member
    have key : e.1 ∈ names.map Value.text := texts ▸ List.mem_map_of_mem member
    obtain ⟨name, known, text⟩ := List.mem_map.mp key
    exact ⟨name, text.symm, undotted name known⟩
  · rw [← List.pairwise_map (f := Prod.fst) (R := (· ≠ ·)), texts]
    refine List.pairwise_map.mpr (nodup.imp fun {a b} differ same => differ (Value.text.inj same))

theorem SimpleKeys.under_of_mem (keys : SimpleKeys entries) (member : (.text key, argument) ∈ entries) :
    Under entries key argument := by
  obtain ⟨before, after, rfl⟩ := List.append_of_mem member
  have apart := (List.pairwise_append.mp keys.distinct).2.2
  exact ⟨before, after, rfl, fun e earlier => apart e earlier _ List.mem_cons_self⟩

theorem descend?_key (keys : SimpleKeys entries) (mapping : node.entries? = some entries)
    (member : (.text key, argument) ∈ entries) (located : rules.descend? route = some node) :
    rules.descend? (route ++ [key]) = some argument := by
  have found : lookup key entries = some argument := lookup_eq_some_iff.mpr (keys.under_of_mem member)
  rw [descend?_append, located]
  simp [descend?, mapping, found]

end Value

/-- Where a judgement stands: the segments of its path, and its depth. -/
def Judgement.place (j : Judgement) : List String × Int := (Path.segments j.path, j.depth)

/-- The path of a judgement goes on from a route through rules, and ends at its argument. -/
structure Judgement.Follows (rules : Value) (route : List String) (j : Judgement) : Prop where
  onward : route <+: Path.segments j.path
  located : rules.descend? (Path.segments j.path) = some j.argument

theorem Judgement.Follows.of_append {rules : Value} {route more : List String} {j : Judgement}
    (follows : j.Follows rules (route ++ more)) : j.Follows rules route :=
  ⟨(List.prefix_append route more).trans follows.onward, follows.located⟩

theorem Judgement.Follows.segments_ne {rules : Value} {route : List String} {key : String} {j : Judgement}
    (follows : j.Follows rules (route ++ [key])) : Path.segments j.path ≠ route := by
  intro same
  have longer := follows.onward.length_le
  rw [same, List.length_append, List.length_singleton] at longer
  omega

theorem Judgement.Follows.place_ne {rules : Value} {route : List String} {key key' : String} {i j : Judgement}
    (first : i.Follows rules (route ++ [key])) (second : j.Follows rules (route ++ [key']))
    (other : key ≠ key') : i.place ≠ j.place := by
  intro same
  obtain ⟨rest, here⟩ := first.onward
  obtain ⟨rest', there⟩ := second.onward
  have segments : Path.segments i.path = Path.segments j.path := congrArg Prod.fst same
  rw [← here, ← there, List.append_assoc, List.append_assoc] at segments
  exact other (List.cons.inj (List.append_cancel_left segments)).1

/-- What is judged in a run has a property, and stands at different places. -/
structure Run.Charted {α : Type} (P : Judgement → Prop) (r : Run α) : Prop where
  holds : ∀ j ∈ r.trace, P j
  apart : r.trace.Pairwise fun i j => i.place ≠ j.place

namespace Run.Charted

variable {α β : Type} {P Q : Judgement → Prop} {r : Run α} {next : α → Run β}

theorem of_trace_nil (none : r.trace = []) : r.Charted P := ⟨by simp [none], by simp [none]⟩

theorem judged {j : Judgement} (holds : P j) : (Run.event (.judged j)).Charted P :=
  ⟨List.forall_mem_singleton.mpr holds, List.pairwise_singleton _ j⟩

theorem mono (charted : r.Charted P) (implies : ∀ j, P j → Q j) : r.Charted Q :=
  ⟨fun j member => implies j (charted.holds j member), charted.apart⟩

theorem bind (first : r.Charted P) (later : ∀ a, (next a).Charted Q)
    (apart : ∀ i j, P i → Q j → i.place ≠ j.place) : (r >>= next).Charted fun j => P j ∨ Q j := by
  cases outcome : r.outcome with
  | error s =>
    have same : (r >>= next).trace = r.trace := Run.trace_bind_of_error outcome next
    exact ⟨fun j member => .inl (first.holds j (same ▸ member)), same ▸ first.apart⟩
  | ok a =>
    have both : (r >>= next).trace = r.trace ++ (next a).trace := Run.trace_bind_of_ok outcome next
    constructor
    · intro j member
      rw [both] at member
      exact (List.mem_append.mp member).imp (first.holds j) ((later a).holds j)
    · rw [both]
      refine List.pairwise_append.mpr ⟨first.apart, (later a).apart, fun i before j after => ?_⟩
      exact apart i j (first.holds i before) ((later a).holds j after)

theorem bind_cons {ι : Type} {P : ι → Judgement → Prop} {item : ι} {rest : List ι} (first : r.Charted (P item))
    (later : ∀ a, (next a).Charted fun j => ∃ item' ∈ rest, P item' j)
    (apart : ∀ item' ∈ rest, ∀ i j, P item i → P item' j → i.place ≠ j.place) :
    (r >>= next).Charted fun j => ∃ item' ∈ item :: rest, P item' j := by
  have parted : ∀ i j, P item i → (∃ item' ∈ rest, P item' j) → i.place ≠ j.place := by
    rintro i j here ⟨item', member, there⟩
    exact apart item' member i j here there
  refine (first.bind later parted).mono fun j holds => ?_
  rcases holds with here | ⟨item', member, there⟩
  · exact ⟨item, List.mem_cons_self, here⟩
  · exact ⟨item', List.mem_cons_of_mem item member, there⟩

theorem bind_silent (first : r.Charted P) (silent : ∀ a, (next a).trace = []) : (r >>= next).Charted P := by
  have never (a : α) : (next a).Charted fun _ => False := of_trace_nil (silent a)
  exact (first.bind never fun _ _ _ no => no.elim).mono fun j holds => holds.resolve_right id

theorem silent_bind (silent : r.trace = []) (later : ∀ a, (next a).Charted Q) : (r >>= next).Charted Q := by
  have never : r.Charted fun _ => False := of_trace_nil silent
  exact (never.bind later fun _ _ no => no.elim).mono fun j holds => holds.resolve_left id

end Run.Charted

namespace Evaluation

open Value (SimpleKeys HasSimpleKeys)

variable {table : PredicateTable} {o : Options} {nested : Nested} {depth : Nat} {mode : Mode}
  {path : String} {v rules node argument : Value} {route : List String} {entries : List (Value × Value)}
  {P : Value × Value → Judgement → Prop}

theorem charted_judgeEntries {judge : Value × Value → Run (Option Bool)}
    (each : ∀ e ∈ entries, (judge e).Charted (P e))
    (apart : entries.Pairwise fun e e' => ∀ i j, P e i → P e' j → i.place ≠ j.place) :
    (judgeEntries mode judge entries).Charted fun j => ∃ e ∈ entries, P e j := by
  induction entries with
  | nil => exact .of_trace_nil rfl
  | cons e rest ih =>
    obtain ⟨first, later⟩ := List.pairwise_cons.mp apart
    have charted := ih (fun e' member => each e' (List.mem_cons_of_mem e member)) later
    refine (each e List.mem_cons_self).bind_cons (fun result => ?_) first
    cases result with
    | none => exact charted
    | some b =>
      by_cases settles : (b == (mode == .any)) = true
      · simp only [settles, if_true]
        exact .of_trace_nil rfl
      · simp only [settles]
        exact charted

theorem charted_judgeProperties
    (each : ∀ e ∈ entries, (judgeProperty o nested v path e).Charted (P e))
    (apart : entries.Pairwise fun e e' => ∀ i j, P e i → P e' j → i.place ≠ j.place) :
    (judgeProperties o nested v path entries).Charted fun j => ∃ e ∈ entries, P e j := by
  induction entries with
  | nil => exact .of_trace_nil rfl
  | cons e rest ih =>
    obtain ⟨first, later⟩ := List.pairwise_cons.mp apart
    have charted := ih (fun e' member => each e' (List.mem_cons_of_mem e member)) later
    rw [judgeProperties_cons]
    refine (each e List.mem_cons_self).bind_cons (fun result => ?_) first
    cases result with
    | true => exact charted
    | false => exact .of_trace_nil rfl

/-- A rule that stands at a route is judged at places that go on from there; at the route itself a judgement
stands at one depth only. -/
def Locates (rules : Value) (depth : Int) (nested : Nested) : Prop :=
  ∀ level node route path, rules.StandsAt level node → rules.descend? route = some node →
    path ≠ "" → Path.segments path = route → ∀ v mode,
      (nested v (.ofValue node) mode path).Charted fun j =>
        j.Follows rules route ∧ (Path.segments j.path = route → j.depth = depth)

theorem follows_apart (keys : SimpleKeys entries) :
    entries.Pairwise fun e e' => ∀ i j : Judgement,
      (∃ key, e.1 = .text key ∧ i.Follows rules (route ++ [key])) →
      (∃ key, e'.1 = .text key ∧ j.Follows rules (route ++ [key])) → i.place ≠ j.place := by
  refine keys.distinct.imp fun {e e'} distinct => ?_
  rintro i j ⟨key, here, first⟩ ⟨key', there, second⟩
  refine first.place_ne second fun same => distinct ?_
  rw [here, there, same]

theorem segments_rulePath {key : String} (undotted : '.' ∉ key.toList) (path : String) :
    Path.segments (rulePath path (.text key)) = Path.steps path ++ [key] := by
  by_cases root : path = ""
  · rw [root]
    exact Path.segments_of_undotted undotted
  · have longer : rulePath path (.text key) = path ++ "." ++ key := by
      simp [rulePath, root, Value.display]
    rw [longer, Path.segments_append, Path.segments_of_undotted undotted, Path.steps_of_ne root]

section Inside

variable {level : Nat} {key : Value} {name : RuleName} (locates : Locates rules (depth + 1) nested)
  (keys : rules.HasSimpleKeys) (standing : rules.StandsAt level node) (mapping : node.entries? = some entries)
  (located : rules.descend? route = some node)

include locates standing mapping

theorem charted_nested (member : (key, argument) ∈ entries) (named : RuleName.ofValue? key = some name)
    (nesting : name ∈ [RuleName.any, .all, .negation]) (located : rules.descend? route = some argument)
    (path_ne : path ≠ "") (atRoute : Path.segments path = route) :
    (nested v (.ofValue argument) mode path).Charted fun j =>
      j.Follows rules route ∧ j.place ≠ (route, (depth : Int)) := by
  have deeper := standing.within (Value.argument_mem_innerRules mapping member named nesting)
  refine (locates _ argument route path deeper located path_ne atRoute v mode).mono ?_
  rintro j ⟨follows, level⟩
  refine ⟨follows, fun same => ?_⟩
  have here : j.depth = depth + 1 := level (congrArg Prod.fst same)
  have there : j.depth = depth := congrArg Prod.snd same
  omega

include keys

theorem charted_judgeProperty {asked : List (Value × Value)} {property : Value × Value}
    (member : (key, argument) ∈ entries) (named : RuleName.ofValue? key = some .properties)
    (properties : argument.entries? = some asked) (held : property ∈ asked)
    (located : rules.descend? route = some argument) (atRoute : Path.segments path = route) :
    (judgeProperty o nested v path property).Charted fun j =>
      ∃ key, property.1 = .text key ∧ j.Follows rules (route ++ [key]) := by
  obtain ⟨name, inner⟩ := property
  have simple : SimpleKeys asked :=
    (keys level node standing).properties entries key argument asked mapping member named properties
  obtain ⟨name, rfl, undotted⟩ := simple.undotted _ held
  have deeper := standing.within (Value.property_mem_innerRules mapping member named properties held)
  have further := Value.descend?_key simple properties held located
  have segments : Path.segments (path ++ "." ++ name) = route ++ [name] := by
    rw [Path.segments_append, Path.segments_of_undotted undotted, atRoute]
  refine .silent_bind (Run.trace_ofExcept _) fun found => ?_
  refine (locates _ inner _ _ deeper further (by simp) segments found .default).mono ?_
  rintro j ⟨follows, _⟩
  exact ⟨name, rfl, follows⟩

theorem charted_judgeRule (member : (key, argument) ∈ entries) (named : RuleName.ofValue? key = some name)
    (located : rules.descend? route = some argument) (path_ne : path ≠ "") (atRoute : Path.segments path = route) :
    (judgeRule o nested mode v name argument path).Charted fun j =>
      j.Follows rules route ∧ j.place ≠ (route, (depth : Int)) := by
  cases name with
  | any => exact charted_nested locates standing mapping member named (by simp) located path_ne atRoute
  | all => exact charted_nested locates standing mapping member named (by simp) located path_ne atRoute
  | negation =>
    simp only [judgeRule, judgeNegation]
    split
    · exact .of_trace_nil rfl
    · exact (charted_nested locates standing mapping member named (by simp) located path_ne
        atRoute).bind_silent fun b => rfl
  | properties =>
    simp only [judgeRule]
    split
    · rename_i asked properties
      have simple : SimpleKeys asked :=
        (keys level node standing).properties entries key argument asked mapping member named properties
      have each : ∀ e ∈ asked, (judgeProperty o nested v path e).Charted fun j =>
          ∃ key, e.1 = .text key ∧ j.Follows rules (route ++ [key]) := fun e held =>
        charted_judgeProperty locates keys standing mapping member named properties held located atRoute
      refine (charted_judgeProperties each (follows_apart simple)).mono ?_
      rintro j ⟨e, _, key, _, follows⟩
      exact ⟨follows.of_append, fun same => follows.segments_ne (congrArg Prod.fst same)⟩
    · exact .of_trace_nil rfl
  | _ => exact .of_trace_nil (Run.trace_ofExcept _)

include located

theorem charted_judgeEntry {entry : Value × Value} (member : entry ∈ entries)
    (atRoute : Path.steps path = route) :
    (judgeEntry o nested depth mode path v entry).Charted fun j =>
      ∃ key, entry.1 = .text key ∧ j.Follows rules (route ++ [key]) := by
  obtain ⟨key, argument⟩ := entry
  have simple : SimpleKeys entries := (keys level node standing).names entries mapping
  obtain ⟨text, rfl, undotted⟩ := simple.undotted _ member
  have segments : Path.segments (rulePath path (.text text)) = route ++ [text] := by
    rw [segments_rulePath undotted, atRoute]
  have further := Value.descend?_key simple mapping member located
  have itself (b : Bool) : (⟨rulePath path (.text text), text, argument, v, b, depth⟩ : Judgement).Follows rules
      (route ++ [text]) := ⟨segments ▸ List.prefix_rfl, segments ▸ further⟩
  have only {r : Run (Option Bool)} (charted : r.Charted fun j => j.Follows rules (route ++ [text])) :
      r.Charted fun j => ∃ key, Value.text text = .text key ∧ j.Follows rules (route ++ [key]) :=
    charted.mono fun j follows => ⟨text, rfl, follows⟩
  apply only
  cases named : RuleName.ofValue? (.text text) with
  | none =>
    rw [judgeEntry_of_unknown named]
    split
    · refine .silent_bind rfl fun _ => ?_
      exact (Run.Charted.judged (itself false)).bind_silent fun _ => rfl
    · exact .of_trace_nil rfl
  | some name =>
    rw [judgeEntry_of_rule named]
    have concluded (b : Bool) : (do
        Run.event (.judged ⟨rulePath path (.text text), text, argument, v, b, depth⟩)
        return some b).Charted fun j => j.Follows rules (route ++ [text]) ∧ j.place = (route ++ [text], (depth : Int)) :=
      (Run.Charted.judged ⟨itself b, by rw [Judgement.place, segments]⟩).bind_silent fun _ => rfl
    -- The rule has its place to itself: what it leads to may share the path, but then not the depth.
    refine ((charted_judgeRule locates keys standing mapping member named further (rulePath_ne_empty named)
      segments).bind concluded ?_).mono ?_
    · rintro i j ⟨_, elsewhere⟩ ⟨_, here⟩ same
      exact elsewhere (same.trans here)
    · rintro j (⟨follows, _⟩ | ⟨follows, _⟩) <;> exact follows

theorem charted_judgeTree (atRoute : Path.steps path = route) :
    (judgeEntries mode (judgeEntry o nested depth mode path v) entries).Charted fun j =>
      j.Follows rules route ∧ Path.segments j.path ≠ route := by
  have simple : SimpleKeys entries := (keys level node standing).names entries mapping
  have each : ∀ e ∈ entries, (judgeEntry o nested depth mode path v e).Charted fun j =>
      ∃ key, e.1 = .text key ∧ j.Follows rules (route ++ [key]) :=
    fun e member => charted_judgeEntry locates keys standing mapping located member atRoute
  refine (charted_judgeEntries each (follows_apart simple)).mono ?_
  rintro j ⟨e, _, key, _, follows⟩
  exact ⟨follows.of_append, follows.segments_ne⟩

end Inside

theorem locates_judgeNode (locates : Locates rules (depth + 1) nested) (keys : rules.HasSimpleKeys) :
    Locates rules depth (judgeNode table o nested depth) := by
  intro level node route path standing located path_ne atRoute v mode
  rcases RuleNode.ofValue_cases node with ⟨entries, mapping, tree⟩ | ⟨f, rfl, called⟩ | ⟨_, malformed⟩
  · rw [tree]
    have followed : Path.steps path = route := (Path.steps_of_ne path_ne).trans atRoute
    refine (charted_judgeTree locates keys standing mapping located followed).mono ?_
    rintro j ⟨follows, beyond⟩
    exact ⟨follows, fun same => absurd same beyond⟩
  · rw [called]
    have shown : shownPath path = path := by simp [shownPath, path_ne]
    have followed : Path.segments (shownPath path) = route := (congrArg Path.segments shown).trans atRoute
    refine .silent_bind (Predicate.trace_judge _ _ _) fun b => ?_
    refine (Run.Charted.judged ⟨⟨?_, ?_⟩, fun _ => rfl⟩).bind_silent fun _ => rfl
    · exact followed ▸ List.prefix_rfl
    · rw [followed, located]
  · rw [malformed]
    exact .of_trace_nil rfl

/-- With some levels left, rules are judged at places that tell them apart at the depth that has been reached. -/
theorem locates_judge (keys : rules.HasSimpleKeys) (left : Nat) (within : left ≤ o.maxDepth + 1) :
    Locates rules (o.maxDepth + 1 - left : Nat) (judge table o left) := by
  induction left with
  | zero =>
    intro level node route path _ _ _ _ v mode
    exact .of_trace_nil rfl
  | succ left ih =>
    -- With one level less that is left, the rules inside are judged one level deeper.
    have reached : o.maxDepth + 1 - (left + 1) = o.maxDepth - left := by omega
    have deeper : ((o.maxDepth + 1 - left : Nat) : Int) = (o.maxDepth - left : Nat) + 1 := by omega
    rw [reached]
    exact locates_judgeNode (deeper ▸ ih (by omega)) keys

end Evaluation

/-- In rules whose names and properties are texts without dots, the path of each judgement of an evaluation,
whether it comes to an answer or is stopped, leads to the argument that was judged, and no two judgements have
both the same path and the same depth. -/
theorem evaluate_locates (table : PredicateTable) (o : Options) (v rules : Value)
    (mapping : ∃ entries, rules.entries? = some entries) (keys : rules.HasSimpleKeys) :
    (∀ j ∈ (evaluate table o v rules).trace,
      rules.descend? (Path.segments j.path) = some j.argument) ∧
    (evaluate table o v rules).trace.Pairwise fun i j => ¬ (i.path = j.path ∧ i.depth = j.depth) := by
  obtain ⟨entries, mapping⟩ := mapping
  have inside : Evaluation.Locates rules ((o.maxDepth - o.maxDepth : Nat) + 1)
      (Evaluation.judge table o o.maxDepth) := by
    have located : Evaluation.Locates rules (o.maxDepth + 1 - o.maxDepth : Nat)
        (Evaluation.judge table o o.maxDepth) := Evaluation.locates_judge keys o.maxDepth (Nat.le_succ o.maxDepth)
    have level : ((o.maxDepth + 1 - o.maxDepth : Nat) : Int) = (o.maxDepth - o.maxDepth : Nat) + 1 := by omega
    exact level ▸ located
  have charted : (evaluate table o v rules).Charted fun j =>
      j.Follows rules [] ∧ Path.segments j.path ≠ [] := by
    unfold evaluate
    rw [RuleNode.ofValue_of_entries mapping]
    exact Evaluation.charted_judgeTree inside keys .whole mapping rfl rfl
  constructor
  · intro j member
    exact (charted.holds j member).1.located
  · refine charted.apart.imp fun {i j} apart => ?_
    rintro ⟨path, depth⟩
    exact apart (by rw [Judgement.place, Judgement.place, path, depth])

/-- A predicate under `any` has the path of the rule that it stands in; the second rule is stopped by the depth
limit. -/
theorem evaluate_locates_of_predicate :
    let known := Value.function (.builtin "callable")
    let properties := Value.plain [(.text "age", .plain [(.text "gte", .int 18), (.text "not", known)])]
    let rules := Value.plain [(.text "any", known), (.text "match", properties)]
    let v := Value.plain [(.text "age", .int 21)]
    let run := evaluate (fun _ => Catalog.always true) { maxDepth := 1 } v rules
    (∃ entries, rules.entries? = some entries) ∧ rules.HasSimpleKeys ∧ run.outcome = .error .tooDeep ∧
      run.trace.map (fun j => (j.path, j.depth)) = [("any", 1), ("any", 0), ("match.age.gte", 1)] ∧
      (∀ j ∈ run.trace, rules.descend? (Path.segments j.path) = some j.argument) ∧
      run.trace.Pairwise fun i j => ¬ (i.path = j.path ∧ i.depth = j.depth) := by
  intro known properties rules v run
  let age := Value.plain [(.text "gte", .int 18), (.text "not", known)]
  have knownKeys : known.HasSimpleKeys := by
    refine .of_innerRules ⟨nofun, nofun⟩ ?_
    change ∀ inner ∈ [], Value.HasSimpleKeys inner
    simp
  have ageKeys : age.HasSimpleKeys := by
    refine .of_innerRules ⟨?_, ?_⟩ ?_
    · intro entries mapping
      rw [← Option.some.inj mapping]
      exact .of_texts ["gte", "not"] rfl (by decide) (by decide)
    · intro entries key argument asked mapping member named
      rw [← Option.some.inj mapping] at member
      have text := RuleName.eq_text_of_ofValue? named
      simp [text, RuleName.name] at member
    · change ∀ inner ∈ [known], Value.HasSimpleKeys inner
      simpa using knownKeys
  have keys : rules.HasSimpleKeys := by
    refine .of_innerRules ⟨?_, ?_⟩ ?_
    · intro entries mapping
      rw [← Option.some.inj mapping]
      exact .of_texts ["any", "match"] rfl (by decide) (by decide)
    · intro entries key argument asked mapping member named given
      rw [← Option.some.inj mapping] at member
      have text := RuleName.eq_text_of_ofValue? named
      have same : argument = properties := by simpa [text, RuleName.name] using member
      rw [same] at given
      rw [← Option.some.inj given]
      exact .of_texts ["age"] rfl (by decide) (by decide)
    · change ∀ inner ∈ [known, age], Value.HasSimpleKeys inner
      simpa using ⟨knownKeys, ageKeys⟩
  have mapping : ∃ entries, rules.entries? = some entries := ⟨_, rfl⟩
  obtain ⟨located, apart⟩ := evaluate_locates (fun _ => Catalog.always true) { maxDepth := 1 } v rules mapping keys
  exact ⟨mapping, keys, rfl, rfl, located, apart⟩

end Criteria
