import Criteria.Proofs.Rule.Congruence
import Criteria.Rule.Session

set_option autoImplicit false
set_option relaxedAutoImplicit false

/-!
# Evaluations within a session

Within a session an evaluation carries the trace along and adds each judgement when it is made. What has
been recorded does not change how the rules are judged, so the session ends up as if the events of an
evaluation on its own had been noted one by one.
-/

namespace Criteria

namespace Session

theorem record_nil (s : Session) : s.record [] = s := by
  obtain ⟨o, trace⟩ := s
  cases trace <;> simp [record]

theorem record_append (s : Session) (first second : List Judgement) :
    s.record (first ++ second) = (s.record first).record second := by
  obtain ⟨o, trace⟩ := s
  cases trace <;> simp [record]

theorem foldl_note (s : Session) (events : List Event) :
    events.foldl note s = s.record (Event.trace events) := by
  induction events generalizing s with
  | nil => exact s.record_nil.symm
  | cons e rest ih =>
    have first : Event.trace (e :: rest) = e.judgement?.toList ++ Event.trace rest := by
      cases judged : e.judgement? <;> simp [Event.trace, judged]
    rw [List.foldl_cons, ih, first, record_append]
    rfl

instance : LawfulMonadLift Run Step where
  monadLift_pure _ := rfl
  monadLift_bind run next := by
    funext s
    obtain ⟨events, stop | a⟩ := run
    · rfl
    · exact congrArg (Prod.mk _) List.foldl_append

def making : Evaluation.Congruence Step Run where
  Related step run := step = liftM run
  answer _ := rfl
  step _ _ := rfl
  bind first later := by rw [first, funext later, liftM_bind]

variable {table : PredicateTable}

theorem judgeIn_eq (o : Options) (left : Nat) (v rules : Value) (mode : Mode) (path : String) :
    Evaluation.judgeIn Step table o left v (.ofValue rules) mode path =
      liftM (Evaluation.judge table o left v (.ofValue rules) mode path) :=
  making.judge (fun _ => rfl) rfl rfl rfl (fun _ _ _ _ => rfl) .whole

/-- An evaluation within a session makes the run that it makes on its own, and notes its events. -/
theorem evaluate_eq (s : Session) (v rules : Value) :
    s.evaluate table v rules =
      (Criteria.evaluate table s.options v rules,
        (Criteria.evaluate table s.options v rules).events.foldl note s) :=
  congrFun (judgeIn_eq s.options (s.options.maxDepth + 1) v rules .default "") s

end Session

end Criteria
