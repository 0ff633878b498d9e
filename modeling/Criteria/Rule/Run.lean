import Criteria.Rule.Event

set_option autoImplicit false
set_option relaxedAutoImplicit false

/-!
# Runs

A run is what an evaluation leaves: its events in order, and then an answer or what stopped it, which
is a fault or rules nested too deeply.
-/

namespace Criteria

/-- What stops an evaluation before it has an answer. -/
inductive Stop
  | tooDeep
  | fault (f : Fault)
  deriving DecidableEq, Repr

structure Run (α : Type) where
  events : List Event
  outcome : Except Stop α

namespace Run

variable {α β : Type}

def answer (a : α) : Run α := ⟨[], .ok a⟩

def stop (s : Stop) : Run α := ⟨[], .error s⟩

def event (e : Event) : Run Unit := ⟨[e], .ok ()⟩

/-- One run and then another, where the first one answers. -/
def andThen (r : Run α) (next : α → Run β) : Run β :=
  match r.outcome with
  | .ok a =>
    let rest := next a
    ⟨r.events ++ rest.events, rest.outcome⟩
  | .error s => ⟨r.events, .error s⟩

instance : Monad Run where
  pure := answer
  bind := andThen

@[simp] theorem answer_andThen (a : α) (next : α → Run β) : (answer a).andThen next = next a := rfl

@[simp] theorem stop_andThen (s : Stop) (next : α → Run β) : (stop s).andThen next = stop s := rfl

@[simp] theorem andThen_answer (r : Run α) : r.andThen answer = r := by
  obtain ⟨events, _ | _⟩ := r <;> simp [andThen, answer]

theorem andThen_assoc {γ : Type} (r : Run α) (next : α → Run β) (last : β → Run γ) :
    (r.andThen next).andThen last = r.andThen fun a => (next a).andThen last := by
  obtain ⟨events, _ | a⟩ := r
  · rfl
  · simp only [andThen]
    cases (next a).outcome <;> simp

theorem events_andThen (r : Run α) (next : α → Run β) :
    (r.andThen next).events = r.events ++ match r.outcome with
      | .ok a => (next a).events
      | .error _ => [] := by
  obtain ⟨events, _ | a⟩ := r <;> simp [andThen]

instance : LawfulMonad Run := LawfulMonad.mk' Run
  (fun r => andThen_answer r)
  (fun _ _ => rfl)
  andThen_assoc

def ofExcept : Except Fault α → Run α
  | .ok a => answer a
  | .error f => stop (.fault f)

/-- The verdict of a run: rules nested too deeply are not satisfied. -/
def verdict (r : Run Bool) : Except Fault Bool :=
  match r.outcome with
  | .ok b => .ok b
  | .error .tooDeep => .ok false
  | .error (.fault f) => .error f

def settled (r : Run Bool) : Run Bool := ⟨r.events, r.verdict.mapError .fault⟩

def trace (r : Run α) : List Judgement := Event.trace r.events

def log (o : Options) (r : Run α) : List LogLine := Event.log o r.events

end Run

end Criteria
