import Criteria.Yaml.Cursor

set_option autoImplicit false
set_option relaxedAutoImplicit false

/-!
# Block scalars

A block scalar is the indented lines after its header. The header says whether lines are kept or
folded, what becomes of the line ends at its end, and it may give the indentation.
-/

namespace Criteria.Yaml.Scan

inductive Chomping
  | strip
  | clip
  | keep
  deriving DecidableEq, Repr

def chomping : Scan Chomping := do
  if ← sees (· == '+') then
    skip 1
    return .keep
  if ← sees (· == '-') then
    skip 1
    return .strip
  return .clip

/-- Read a digit for the indentation, which may not be zero. -/
def indentDigit : Scan (Option Nat) := do
  match ← peek with
  | none => return none
  | some c =>
    if c == '0' then refuse
    if c.isDigit then
      skip 1
      return some (c.toNat - 48)
    return none

/-- Read the header: the two signs, in any order, and the rest of the line. -/
def blockHeader : Scan (Chomping × Option Nat) := do
  let first ← chomping
  let digit ← indentDigit
  let chomp ← if first == .clip && digit.isSome then chomping else pure first
  unless endsPart (← peek) do refuse
  lineEnd
  return (chomp, digit)

def skipIndent (indent : Nat) : Scan Unit :=
  modify fun c => c.skip (min (indent - c.column) (c.rest.takeWhile (· == ' ')).length)

/-- Read empty lines, and find the greatest column that they reach. -/
def leadingBreaks : Nat → Nat → Scan (List Char × Nat)
  | 0, _ => refuse
  | fuel + 1, widest => do
    skipBlanks
    let widest := max widest (← get).column
    if ← sees isBreak then
      let text ← lineBreak
      let (more, widest) ← leadingBreaks fuel widest
      return (text ++ more, widest)
    else return ([], widest)

/-- Read empty lines, and then blanks up to a column. -/
def blockBreaks (indent : Nat) : Nat → Scan (List Char)
  | 0 => refuse
  | fuel + 1 => do
    skipIndent indent
    if ← sees isBreak then
      let text ← lineBreak
      return text ++ (← blockBreaks indent fuel)
    else return []

def atBlockLine (indent : Nat) : Scan Bool := do
  let c ← get
  return c.column == indent && !c.rest.isEmpty

def beginsFlush : Scan Bool := return !(← sees fun c => c == ' ' || c == '\t')

/-- The lines of a block scalar, its last line end, and the empty lines after it. -/
structure BlockLines where
  text : List Char
  lastBreak : List Char
  breaks : List Char

def blockLines (folded : Bool) (indent : Nat) : Nat → BlockLines → Scan BlockLines
  | 0, _ => refuse
  | fuel + 1, read => do
    unless ← atBlockLine indent do return read
    let flush ← beginsFlush
    let line ← takeWhile fun c => !isBreak c
    let text := read.text ++ read.breaks ++ line
    let lastBreak ← lineBreak
    let breaks ← blockBreaks indent fuel
    if ← atBlockLine indent then
      let joint :=
        if folded && lastBreak == ['\n'] && flush && (← beginsFlush) then
          if breaks.isEmpty then [' '] else []
        else lastBreak
      blockLines folded indent fuel ⟨text ++ joint, lastBreak, breaks⟩
    else return ⟨text, lastBreak, breaks⟩

def blockText (folded : Bool) (outer : Int) : Scan String := do
  skip 1
  let (chomp, digit) ← blockHeader
  let least := max 1 (outer + 1).toNat
  let fuel := (← get).rest.length + 1
  let (breaks, indent) ← match digit with
    | some digit => do
      let indent := least + digit - 1
      pure (← blockBreaks indent fuel, indent)
    | none => do
      let (breaks, widest) ← leadingBreaks fuel 0
      pure (breaks, max least widest)
  let lines ← blockLines folded indent fuel ⟨[], [], breaks⟩
  return String.ofList (lines.text ++ match chomp with
    | .strip => []
    | .clip => lines.lastBreak
    | .keep => lines.lastBreak ++ lines.breaks)

end Criteria.Yaml.Scan
