import Criteria.Proofs.Rule.Congruence

set_option autoImplicit false
set_option relaxedAutoImplicit false

/-!
# Levels that are left

A rule is answered by what is in it and not by where it stands. With more levels left, and at another
path, it has the answer that it has with fewer, as long as those are enough for an answer.
-/

namespace Criteria

/-- Where the first of two runs answers, the second one gives the same answer. -/
def Run.AnsweredBy {α : Type} (r r' : Run α) : Prop := ∀ a, r.outcome = .ok a → r'.outcome = .ok a

namespace Run.AnsweredBy

variable {α β : Type} {r r' : Run α} {next next' : α → Run β}

theorem refl (r : Run α) : r.AnsweredBy r := fun _ answer => answer

theorem bind (first : r.AnsweredBy r') (later : ∀ a, (next a).AnsweredBy (next' a)) :
    (r >>= next).AnsweredBy (r' >>= next') := by
  intro b answer
  obtain ⟨a, here, there⟩ := outcome_bind_eq_ok_iff.mp answer
  exact outcome_bind_eq_ok_iff.mpr ⟨a, first a here, later a b there⟩

end Run.AnsweredBy

def Evaluation.Congruence.answering : Evaluation.Congruence Run Run where
  Related r r' := r.AnsweredBy r'
  answer a := .refl (.answer a)
  step _ _ := .refl _
  bind first later := .bind first later

namespace Evaluation

variable {table : PredicateTable} {o : Options} {nested nested' : Nested} {depth depth' : Nat}
  {mode : Mode} {path path' : String} {v : Value}

section Inside

variable (inside : ∀ found node mode path path',
  (nested found node mode path).AnsweredBy (nested' found node mode path'))

include inside

theorem answeredBy_judgeProperties (entries : List (Value × Value)) :
    (judgeProperties o nested v path entries).AnsweredBy
      (judgeProperties o nested' v path' entries) := by
  induction entries with
  | nil => exact .refl _
  | cons entry rest ih =>
    refine (Run.AnsweredBy.refl _).bind fun found => ?_
    refine (inside found _ .default _ _).bind fun result => ?_
    cases result with
    | true => exact ih
    | false => exact .refl _

theorem answeredBy_judgeRule (name : RuleName) (argument : Value) :
    (judgeRule o nested mode v name argument path).AnsweredBy
      (judgeRule o nested' mode v name argument path') := by
  cases name with
  | any => exact inside v _ .any path path'
  | all => exact inside v _ .all path path'
  | negation =>
    simp only [judgeRule, judgeNegation]
    split
    · exact .refl _
    · exact (inside v _ .default path path').bind fun result => .refl _
  | properties =>
    simp only [judgeRule]
    split
    · exact answeredBy_judgeProperties inside _
    · exact .refl _
  | _ => exact .refl _

theorem answeredBy_judgeEntry (entry : Value × Value) :
    (judgeEntry o nested depth mode path v entry).AnsweredBy
      (judgeEntry o nested' depth' mode path' v entry) := by
  obtain ⟨key, argument⟩ := entry
  cases named : RuleName.ofValue? key with
  | none =>
    intro result answer
    rw [outcome_judgeEntry_of_unknown named] at answer ⊢
    exact answer
  | some name =>
    rw [judgeEntry_of_rule named, judgeEntry_of_rule named]
    exact (answeredBy_judgeRule inside name argument).bind fun b => fun _ same => same

theorem answeredBy_judgeNode (node : RuleNode) :
    (judgeNode table o nested depth v node mode path).AnsweredBy
      (judgeNode table o nested' depth' v node mode path') := by
  cases node with
  | tree entries =>
    exact Congruence.answering.judgeEntries fun entry _ => answeredBy_judgeEntry inside entry
  | predicate f => exact (Run.AnsweredBy.refl _).bind fun result => fun _ same => same
  | malformed raw => exact fun _ same => same

end Inside

theorem answeredBy_judge {left left' : Nat} (fewer : left ≤ left') (node : RuleNode) :
    (judge table o left v node mode path).AnsweredBy (judge table o left' v node mode path') := by
  induction left generalizing left' v node mode path path' with
  | zero =>
    intro b answer
    simp at answer
  | succ left ih =>
    obtain ⟨more, rfl⟩ := Nat.exists_eq_add_of_le fewer
    have levels : left + 1 + more = (left + more) + 1 := by omega
    rw [levels]
    -- The rules inside have one level less on both sides, and so again at least as many on the right.
    simp only [judge_succ]
    refine answeredBy_judgeNode (fun found node mode path path' => ?_) node
    exact ih (Nat.le_add_right left more) node

end Evaluation

end Criteria
