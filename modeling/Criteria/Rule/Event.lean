import Criteria.Options.Basic
import Criteria.Value.Text

set_option autoImplicit false
set_option relaxedAutoImplicit false

/-!
# What happens in an evaluation

Besides its answer an evaluation leaves events: each rule that it judged, and what it met on the way.
The trace and the log are two views of them, so that looking at either changes nothing.
-/

namespace Criteria

structure Judgement where
  path : String
  rule : String
  argument : Value
  value : Value
  result : Bool
  depth : Int

inductive LogLevel
  | debug
  | warning
  deriving DecidableEq, Repr

inductive LogSource
  | evaluation
  | engine
  deriving DecidableEq, Repr

structure LogLine where
  level : LogLevel
  source : LogSource
  message : String
  deriving DecidableEq, Repr

inductive Event
  | judged (j : Judgement)
  | malformed (path : String) (raw : Value)
  | ignored (name : Value) (path : String)
  | rejected (name : Value) (path : String)
  | tooDeep (limit : Nat) (path : String)
  | said (line : LogLine)

/-- The path as shown, which for the whole of the rules is no path at all. -/
def shownPath (path : String) : String := if path == "" then "<root>" else path

def boolText (b : Bool) : String := if b then "True" else "False"

namespace Judgement

/-- Two spaces for each level of depth. -/
def indent (depth : Int) : String := String.ofList (List.replicate (2 * depth.toNat) ' ')

def line (j : Judgement) : String :=
  indent j.depth ++ j.path ++ " = " ++ boolText j.result ++ " (value=" ++ j.value.literal
    ++ ", argument=" ++ j.argument.literal ++ ")"

end Judgement

namespace Event

def line? (o : Options) : Event → Option LogLine
  | .judged j => if o.debug then some ⟨.debug, .evaluation, j.line⟩ else none
  | .malformed path raw =>
    if o.debug then
      some ⟨.debug, .evaluation, "Invalid rule node at '" ++ shownPath path ++ "': " ++ raw.literal⟩
    else none
  | .ignored name path =>
    if o.debug then
      some ⟨.debug, .evaluation, "Ignoring unknown rule '" ++ name.display ++ "' at '" ++ path ++ "'"⟩
    else none
  | .rejected name path =>
    some ⟨.warning, .evaluation, "Unknown rule '" ++ name.display ++ "' at '" ++ path ++ "'"⟩
  | .tooDeep limit path =>
    some ⟨.warning, .evaluation, "Rule nesting exceeds max_depth=" ++ toString limit ++ " at '"
      ++ shownPath path ++ "'; failing evaluation"⟩
  | .said line => some line

def judgement? : Event → Option Judgement
  | .judged j => some j
  | _ => none

def log (o : Options) (events : List Event) : List LogLine := events.filterMap (line? o)

def trace (events : List Event) : List Judgement := events.filterMap judgement?

@[simp] theorem log_nil (o : Options) : log o [] = [] := rfl

@[simp] theorem log_append (o : Options) (first second : List Event) :
    log o (first ++ second) = log o first ++ log o second := List.filterMap_append

@[simp] theorem trace_nil : trace [] = [] := rfl

@[simp] theorem trace_append (first second : List Event) :
    trace (first ++ second) = trace first ++ trace second := List.filterMap_append

end Event

end Criteria
