import Criteria.Pattern.Reader
import Criteria.Text.Identifier

set_option autoImplicit false
set_option relaxedAutoImplicit false

/-!
# Groups in patterns

After an opening bracket a question mark says what kind of group begins: one with a name, one that
looks ahead or behind, one with flags of its own, a condition, or no group at all but a remark, a
reference, or flags for the whole pattern.
-/

namespace Criteria

inductive GroupHead
  | capture (name : Option String)
  | plain
  | atomic
  | scoped (on off : PatternFlags) (unicode : Bool)
  | look (behind negated : Bool)
  | whether (group : Nat)
  | complete (piece : Option Piece)
  | flagged

structure InlineFlags where
  flags : PatternFlags := {}
  unicode : Bool := false
  template : Bool := false

namespace PatternReading

open PatternToken

def namedGroup (name : String) : PatternReading Nat := do
  unless Text.isIdentifier name do refuse
  match (← get).names.lookup name with
  | some group => return group
  | none => refuse

def conditionGroup (shown : String) : PatternReading Nat := do
  if Text.isIdentifier shown then namedGroup shown
  else
    match Text.integerOf 10 shown with
    | .ok (.ofNat (n + 1)) =>
      modify fun r => { r with conditions := (n + 1) :: r.conditions }
      return n + 1
    | _ => refuse

/-- Turn on the flag of a letter; the flags for all letters and for those of ASCII exclude each other. -/
def turnOn (on : InlineFlags) (letter : Char) : PatternReading InlineFlags := do
  if letter == 'u' then
    let isText := (← get).isText
    if on.flags.ascii || !isText then refuse
    return { on with unicode := true }
  if letter == 't' then return { on with template := true }
  if letter == 'a' && on.unicode then refuse
  match on.flags.set? letter with
  | some flags => return { on with flags }
  | none => refuse

def flagsOn : Nat → InlineFlags → Char → PatternReading (InlineFlags × Char)
  | 0, _, _ => refuse
  | fuel + 1, on, letter => do
    let on ← turnOn on letter
    match ← next with
    | .plain c => if c == ')' || c == '-' || c == ':' then return (on, c) else flagsOn fuel on c
    | _ => refuse

def flagsOff : Nat → PatternFlags → PatternReading PatternFlags
  | 0, _ => refuse
  | fuel + 1, off => do
    match ← next with
    | .plain c =>
      if c == ':' then return off
      match if c == 'a' then none else off.set? c with
      | some off => flagsOff fuel off
      | none => refuse
    | _ => refuse

def groupFlags (opening : Bool) (letter : Char) : PatternReading GroupHead := do
  let fuel := (← get).tokens.length + 1
  let (on, sign) ← if letter == '-' then pure ({}, '-') else flagsOn fuel {} letter
  if sign == ')' then
    unless opening do refuse
    modify fun r => { r with
      flags := r.flags.union on.flags
      unicode := r.unicode || on.unicode
      template := r.template || on.template }
    return .flagged
  if on.template then refuse
  let off ←
    if sign == '-' then do
      if (← peek) == some (.plain ':') then refuse
      flagsOff fuel {}
    else pure {}
  if on.flags.without off != on.flags then refuse
  return .scoped on.flags off on.unicode

/-- Read how a group begins, after its opening bracket. -/
def groupHead (opening : Bool) : PatternReading GroupHead := do
  unless ← accept '?' do return .capture none
  match ← next with
  | .plain c =>
    if c == 'P' then
      if ← accept '<' then
        let name ← enclosed '>'
        unless Text.isIdentifier name do refuse
        return .capture (some name)
      expect '='
      let group ← namedGroup (← enclosed ')')
      return .complete (some (← reference group))
    else if c == ':' then return .plain
    else if c == '>' then return .atomic
    else if c == '=' then return .look false false
    else if c == '!' then return .look false true
    else if c == '<' then
      if ← accept '=' then return .look true false
      expect '!'
      return .look true true
    else if c == '#' then
      match spanUntil ')' (← get).tokens with
      | some (_, rest) =>
        modify fun r => { r with tokens := rest }
        return .complete none
      | none => refuse
    else if c == '(' then
      let group ← conditionGroup (← enclosed ')')
      checkBehind group
      return .whether group
    else groupFlags opening c
  | _ => refuse

end PatternReading

end Criteria
