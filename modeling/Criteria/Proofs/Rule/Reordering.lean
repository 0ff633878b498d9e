import Criteria.Proofs.Rule.Outcome
import Criteria.Rule.Catalog
import Mathlib.Data.List.Forall2

set_option autoImplicit false
set_option relaxedAutoImplicit false

/-!
# Rules in another order

Entries of trees, of `match` and of `has` can be written in any order. An evaluation may then stop at
another entry, but two evaluations that answer give the same answer: the entry that settles one of them
has a match in the other, which says the same if it is reached and is known to say so if it is not.
-/

namespace Criteria

def Shuffled {α : Type} (Matched : α → α → Prop) (items items' : List α) : Prop :=
  ∃ middle, items.Perm middle ∧ List.Forall₂ Matched middle items'

namespace Shuffled

variable {α : Type} {Matched : α → α → Prop} {items items' : List α}

theorem forth (shuffled : Shuffled Matched items items') :
    ∀ item ∈ items, ∃ item' ∈ items', Matched item item' := by
  obtain ⟨middle, perm, matched⟩ := shuffled
  intro item member
  exact Search.exists_of_forall₂ matched item (perm.mem_iff.mp member)

theorem back (shuffled : Shuffled Matched items items') :
    ∀ item' ∈ items', ∃ item ∈ items, Matched item item' := by
  obtain ⟨middle, perm, matched⟩ := shuffled
  intro item' member'
  have flipped : List.Forall₂ (flip Matched) items' middle := matched.flip
  obtain ⟨item, member, here⟩ := Search.exists_of_forall₂ flipped item' member'
  exact ⟨item, perm.mem_iff.mpr member, here⟩

theorem imp {Matched' : α → α → Prop} (shuffled : Shuffled Matched items items')
    (weaker : ∀ item item', Matched item item' → Matched' item item') :
    Shuffled Matched' items items' := by
  obtain ⟨middle, perm, matched⟩ := shuffled
  exact ⟨middle, perm, matched.imp weaker⟩

end Shuffled

namespace Value

/-- Two entries of a tree say the same up to order, where `Inside` relates the rules inside. -/
inductive EntryReordered (Inside : Value → Value → Prop) : Value × Value → Value × Value → Prop
  | same (entry : Value × Value) : EntryReordered Inside entry entry
  | nesting {key argument argument' : Value} {name : RuleName} :
      RuleName.ofValue? key = some name → name ∈ [RuleName.any, .all, .negation] →
      Inside argument argument' → EntryReordered Inside (key, argument) (key, argument')
  | properties {key argument argument' : Value} {asked asked' : List (Value × Value)} :
      RuleName.ofValue? key = some .properties → argument.entries? = some asked →
      argument'.entries? = some asked' →
      Shuffled (fun e e' => e.1 = e'.1 ∧ Inside e.2 e'.2) asked asked' →
      EntryReordered Inside (key, argument) (key, argument')
  | has {key argument argument' : Value} {asked asked' : List (Value × Value)} :
      RuleName.ofValue? key = some .has → argument.entries? = some asked →
      argument'.entries? = some asked' → asked.Perm asked' →
      EntryReordered Inside (key, argument) (key, argument')

/-- Two rules say the same up to order, where `Inside` relates the rules inside. -/
inductive ReorderedWith (Inside : Value → Value → Prop) : Value → Value → Prop
  | same (rules : Value) : ReorderedWith Inside rules rules
  | tree {rules rules' : Value} {entries entries' : List (Value × Value)} :
      rules.entries? = some entries → rules'.entries? = some entries' →
      Shuffled (EntryReordered Inside) entries entries' → ReorderedWith Inside rules rules'

/-- Two rules differ only in the order of entries, at any level. Rules can hold themselves, so this is
a relation that every level inward keeps. -/
def Reordered (rules rules' : Value) : Prop :=
  ∃ Inside : Value → Value → Prop,
    (∀ a b, Inside a b → ReorderedWith Inside a b) ∧ Inside rules rules'

end Value

namespace Run

def Agrees {α : Type} (r r' : Run α) : Prop :=
  ∀ a a', r.outcome = .ok a → r'.outcome = .ok a' → a = a'

variable {α β : Type}

theorem Agrees.refl (r : Run α) : r.Agrees r := by
  intro a a' first second
  rw [first] at second
  exact Except.ok.inj second

theorem Agrees.map {r r' : Run α} {g : α → β} {s s' : Run β} (agree : r.Agrees r')
    (first : s.outcome = g <$> r.outcome) (second : s'.outcome = g <$> r'.outcome) :
    s.Agrees s' := by
  intro b b' answer answer'
  cases outcome : r.outcome with
  | error _ => simp [first, outcome, Functor.map, Except.map] at answer
  | ok a =>
    cases outcome' : r'.outcome with
    | error _ => simp [second, outcome', Functor.map, Except.map] at answer'
    | ok a' =>
      have same : a = a' := agree a a' outcome outcome'
      simp only [first, outcome, Functor.map, Except.map, Except.ok.injEq] at answer
      simp only [second, outcome', Functor.map, Except.map, Except.ok.injEq] at answer'
      rw [← answer, ← answer', same]

end Run

namespace Evaluation

variable {table : PredicateTable} {o : Options} {nested : Nested} {depth : Nat} {mode : Mode}
  {path : String} {v : Value} {Inside : Value → Value → Prop}

theorem agrees_judgeEntries {judge judge' : Value × Value → Run (Option Bool)}
    {entries entries' : List (Value × Value)}
    (shuffled : Shuffled (fun e e' => (judge e).Agrees (judge' e')) entries entries') :
    (judgeEntries mode judge entries).Agrees (judgeEntries mode judge' entries') := by
  intro b b' first second
  have cases_of (b : Bool) : b = (mode != .any) ∨ b = (mode == .any) := by
    cases mode <;> cases b <;> decide
  -- Where one tree is settled and the other left open, the entry that settles the one is matched by
  -- an entry of the other, which has been judged since no entry stopped that tree early.
  rcases cases_of b with rfl | rfl <;> rcases cases_of b' with rfl | rfl
  · rfl
  · obtain ⟨entry', member', settled⟩ := exists_of_outcome_judgeEntries_settled second
    obtain ⟨entry, member, agree⟩ := shuffled.back entry' member'
    obtain ⟨result, answer, unsettled⟩ :=
      (outcome_judgeEntries_open_iff entries).mp first entry member
    exact absurd (agree _ _ answer settled) unsettled
  · obtain ⟨entry, member, settled⟩ := exists_of_outcome_judgeEntries_settled first
    obtain ⟨entry', member', agree⟩ := shuffled.forth entry member
    obtain ⟨result, answer, unsettled⟩ :=
      (outcome_judgeEntries_open_iff entries').mp second entry' member'
    exact absurd (agree _ _ settled answer).symm unsettled
  · rfl

theorem agrees_judgeProperties {asked asked' : List (Value × Value)}
    (inside : ∀ a b, Inside a b → ∀ found path,
      (nested found (.ofValue a) .default path).Agrees (nested found (.ofValue b) .default path))
    (shuffled : Shuffled (fun e e' => e.1 = e'.1 ∧ Inside e.2 e'.2) asked asked') :
    (judgeProperties o nested v path asked).Agrees (judgeProperties o nested v path asked') := by
  have agree {e e' : Value × Value} (sameProperty : e.1 = e'.1) (within : Inside e.2 e'.2) :
      (judgeProperty o nested v path e).Agrees (judgeProperty o nested v path e') := by
    intro b b' first second
    obtain ⟨found, selected, answer⟩ := outcome_judgeProperty_eq_ok_iff.mp first
    obtain ⟨found', selected', answer'⟩ := outcome_judgeProperty_eq_ok_iff.mp second
    rw [← sameProperty, selected] at selected'
    rw [← sameProperty, ← Except.ok.inj selected'] at answer'
    exact inside e.2 e'.2 within found _ b b' answer answer'
  intro b b' first second
  rw [outcome_judgeProperties] at first second
  refine Search.allM_agree ?_ ?_ first second
  · intro e member
    obtain ⟨e', member', sameProperty, within⟩ := shuffled.forth e member
    exact ⟨e', member', agree sameProperty within⟩
  · intro e' member'
    obtain ⟨e, member, sameProperty, within⟩ := shuffled.back e' member'
    exact ⟨e, member, agree sameProperty within⟩

theorem has_agree {argument argument' : Value} {asked asked' : List (Value × Value)} {b b' : Bool}
    (mapping : argument.entries? = some asked) (mapping' : argument'.entries? = some asked')
    (perm : asked.Perm asked') (first : has o mode v argument = .ok b)
    (second : has o mode v argument' = .ok b') : b = b' := by
  rw [has_of_entries mapping] at first
  rw [has_of_entries mapping'] at second
  have unique (e : Value × Value) : ∀ b b', meetsAt o v (mode == .all) e = .ok b →
      meetsAt o v (mode == .all) e = .ok b' → b = b' := by
    intro b b' answer answer'
    rw [answer] at answer'
    exact Except.ok.inj answer'
  refine Search.allM_agree ?_ ?_ first second
  · intro e member
    exact ⟨e, perm.mem_iff.mp member, unique e⟩
  · intro e member
    exact ⟨e, perm.mem_iff.mpr member, unique e⟩

theorem agrees_judgeNegation {argument argument' : Value}
    (reordered : Value.ReorderedWith Inside argument argument')
    (agree : (nested v (.ofValue argument) .default path).Agrees
      (nested v (.ofValue argument') .default path)) :
    (judgeNegation nested v argument path).Agrees (judgeNegation nested v argument' path) := by
  cases reordered with
  | same => exact .refl _
  | tree mapping mapping' _ =>
    rw [RuleNode.ofValue_of_entries mapping, RuleNode.ofValue_of_entries mapping'] at agree
    simp only [judgeNegation, RuleNode.ofValue_of_entries mapping,
      RuleNode.ofValue_of_entries mapping']
    refine agree.map (g := (! ·)) ?_ ?_
    · rw [Run.outcome_bind]
      cases (nested v _ .default path).outcome <;> rfl
    · rw [Run.outcome_bind]
      cases (nested v _ .default path).outcome <;> rfl

theorem agrees_judgeEntry {entry entry' : Value × Value}
    (keeps : ∀ a b, Inside a b → Value.ReorderedWith Inside a b)
    (inside : ∀ a b, Inside a b → ∀ found mode path,
      (nested found (.ofValue a) mode path).Agrees (nested found (.ofValue b) mode path))
    (reordered : Value.EntryReordered Inside entry entry') :
    (judgeEntry o nested depth mode path v entry).Agrees
      (judgeEntry o nested depth mode path v entry') := by
  cases reordered with
  | same => exact .refl _
  | @nesting key argument argument' name named nesting within =>
    refine Run.Agrees.map ?_ (outcome_judgeEntry_of_rule named) (outcome_judgeEntry_of_rule named)
    simp only [List.mem_cons, List.not_mem_nil, or_false] at nesting
    rcases nesting with rfl | rfl | rfl
    · exact inside argument argument' within v .any _
    · exact inside argument argument' within v .all _
    · exact agrees_judgeNegation (keeps argument argument' within)
        (inside argument argument' within v .default _)
  | properties named mapping mapping' shuffled =>
    refine Run.Agrees.map ?_ (outcome_judgeEntry_of_rule named) (outcome_judgeEntry_of_rule named)
    simp only [judgeRule, mapping, mapping']
    exact agrees_judgeProperties (fun a b within found path => inside a b within found .default path)
      shuffled
  | has named mapping mapping' perm =>
    refine Run.Agrees.map ?_ (outcome_judgeEntry_of_rule named) (outcome_judgeEntry_of_rule named)
    intro b b' first second
    exact has_agree mapping mapping' perm (Run.outcome_ofExcept_eq_ok_iff.mp first)
      (Run.outcome_ofExcept_eq_ok_iff.mp second)

/-- With the same number of levels left, reordered rules are not judged differently. -/
theorem agrees_judge {left : Nat} {rules rules' : Value}
    (keeps : ∀ a b, Inside a b → Value.ReorderedWith Inside a b) (related : Inside rules rules') :
    (judge table o left v (.ofValue rules) mode path).Agrees
      (judge table o left v (.ofValue rules') mode path) := by
  induction left generalizing v rules rules' mode path with
  | zero =>
    intro b b' first _
    simp at first
  | succ left ih =>
    cases keeps rules rules' related with
    | same => exact .refl _
    | tree mapping mapping' shuffled =>
      rw [RuleNode.ofValue_of_entries mapping, RuleNode.ofValue_of_entries mapping']
      refine agrees_judgeEntries (shuffled.imp fun entry entry' reordered => ?_)
      exact agrees_judgeEntry keeps (fun a b within found mode path => ih within) reordered

end Evaluation

/-- The order in which rules are written does not change the answer, where there is one both times. -/
theorem evaluate_reordered (table : PredicateTable) (o : Options) (v : Value) {rules rules' : Value}
    {b b' : Bool} (reordered : rules.Reordered rules')
    (first : (evaluate table o v rules).outcome = .ok b)
    (second : (evaluate table o v rules').outcome = .ok b') : b = b' := by
  obtain ⟨Inside, keeps, related⟩ := reordered
  exact Evaluation.agrees_judge keeps related b b' first second

/-- A text has no properties, so that the first of these rules fails, and the last one in the other
order; the entries inside each of them are in another order too. -/
theorem evaluate_reordered_of_text :
    let v := Value.text "Matt"
    let asked := [(Value.text "name", Value.text "Matt"), (.text "role", .text "guest")]
    let refused := [(Value.text "type", Value.text "number"), (.text "startsWith", .text "G")]
    let rules := Value.plain [(.text "has", .plain asked), (.text "not", .plain refused)]
    let rules' :=
      Value.plain [(.text "not", .plain refused.reverse), (.text "has", .plain asked.reverse)]
    rules.Reordered rules' ∧ ∃ b b', (evaluate Catalog.table {} v rules).outcome = .ok b ∧
      (evaluate Catalog.table {} v rules').outcome = .ok b' ∧ b = b' := by
  intro v asked refused rules rules'
  have reordered : rules.Reordered rules' := by
    let Inside (a b : Value) : Prop :=
      a = rules ∧ b = rules' ∨ a = .plain refused ∧ b = .plain refused.reverse
    refine ⟨Inside, ?_, .inl ⟨rfl, rfl⟩⟩
    rintro a b (⟨rfl, rfl⟩ | ⟨rfl, rfl⟩)
    · refine .tree rfl rfl ⟨_, List.Perm.swap _ _ _, ?_⟩
      refine .cons (.nesting rfl (by simp) (.inr ⟨rfl, rfl⟩)) (.cons ?_ .nil)
      exact .has rfl rfl rfl (List.reverse_perm asked).symm
    · refine .tree rfl rfl ⟨_, (List.reverse_perm refused).symm, ?_⟩
      exact List.forall₂_same.mpr fun entry _ => .same entry
  have first : (evaluate Catalog.table {} v rules).outcome = .ok false := rfl
  have second : (evaluate Catalog.table {} v rules').outcome = .ok false := rfl
  exact ⟨reordered, _, _, first, second, evaluate_reordered Catalog.table {} v reordered first second⟩

end Criteria
