import Criteria.Pattern.Node
import Criteria.Pattern.Token

set_option autoImplicit false
set_option relaxedAutoImplicit false

/-!
# What is known while a pattern is read

A reader holds the tokens that are left, the flags that have been turned on, and of each group whether
it has been closed and how wide it is. Each step of reading may find that the text is no pattern: it is
malformed, or a number in it cannot be dealt with.
-/

namespace Criteria

inductive PatternFault
  | malformed
  | fault (f : Fault)
  deriving DecidableEq, Repr

/-- What is known after some of a pattern has been read. -/
structure PatternReader where
  tokens : List PatternToken
  flags : PatternFlags
  isText : Bool := true
  unicode : Bool := false
  template : Bool := false
  names : List (String × Nat) := []
  widths : List (Option Width) := []
  behindFrom : Option Nat := none
  conditions : List Nat := []

abbrev PatternReading := StateT PatternReader (Except PatternFault)

/-- What a token sequence has yielded, as far as a repetition sign cares. -/
inductive PieceRole
  | thing
  | place
  | repetition
  deriving DecidableEq, Repr

structure Piece where
  role : PieceRole
  node : PatternNode

namespace PatternReading

open PatternToken

def refuse {α : Type} : PatternReading α := throw .malformed

def peek : PatternReading (Option PatternToken) := do
  match (← get).tokens with
  | [] => return none
  | .dangling :: _ => refuse
  | token :: _ => return some token

def skip : PatternReading Unit := modify fun r => { r with tokens := r.tokens.tail }

def next : PatternReading PatternToken := do
  match ← peek with
  | some token =>
    skip
    return token
  | none => refuse

def accept (c : Char) : PatternReading Bool := do
  if (← peek) == some (.plain c) then
    skip
    return true
  return false

def expect (c : Char) : PatternReading Unit := do
  unless ← accept c do refuse

/-- Pass over digits of a base, no more than a limit. -/
def digits (base limit : Nat) : PatternReading (List Nat) := do
  let (found, rest) := spanDigits base limit (← get).tokens
  modify fun r => { r with tokens := rest }
  return found

/-- What stands before a closing character; it may not be empty. -/
def enclosed (stop : Char) : PatternReading String := do
  match spanUntil stop (← get).tokens with
  | some (chars, rest) =>
    if chars.isEmpty then refuse
    modify fun r => { r with tokens := rest }
    return String.ofList chars
  | none => refuse

def groupCount : PatternReading Nat := do return (← get).widths.length + 1

def closedWidth? (group : Nat) : PatternReading (Option Width) := do
  if group == 0 then return none
  return ((← get).widths[group - 1]?).join

/-- A group looked at from behind must have been closed before. -/
def checkBehind (group : Nat) : PatternReading Unit := do
  match (← get).behindFrom with
  | none => return
  | some first =>
    if (← closedWidth? group).isNone || group ≥ first then refuse

def reference (group : Nat) : PatternReading Piece := do
  if (← closedWidth? group).isNone then refuse
  checkBehind group
  return ⟨.thing, .reference group⟩

def widthOf (node : PatternNode) : PatternReading Width := do
  let widths := (← get).widths
  return node.width fun group => ((widths[group - 1]?).join).getD .zero

/-- Open a group, which may have a name of its own. -/
def openGroup (name : Option String) : PatternReading Nat := do
  let group ← groupCount
  modify fun r => { r with widths := r.widths ++ [none] }
  match name with
  | none => return group
  | some name =>
    if ((← get).names.lookup name).isSome then refuse
    modify fun r => { r with names := (name, group) :: r.names }
    return group

def closeGroup (group : Nat) (body : PatternNode) : PatternReading Unit := do
  let width ← widthOf body
  modify fun r => { r with widths := r.widths.set (group - 1) (some width) }

end PatternReading

end Criteria
