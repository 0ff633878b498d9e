import Criteria.Yaml.Cursor

set_option autoImplicit false
set_option relaxedAutoImplicit false

/-!
# Plain scalars

A plain scalar ends before a remark, before a colon that ends a word, within brackets also before
their signs, and where a line is indented less than its surroundings. Words on following lines are
joined as in quoted scalars.
-/

namespace Criteria.Yaml.Scan

def isFlowSign (c : Char) : Bool := c == ',' || c == '[' || c == ']' || c == '\x7b' || c == '\x7d'

def plainWord (inFlow : Bool) : List Char → List Char
  | [] => []
  | c :: rest =>
    if endsWord (some c) then []
    else if c == ':' && (endsWord rest.head? || (inFlow && rest.head?.any isFlowSign)) then []
    else if inFlow && (isFlowSign c || c == '?') then []
    else c :: plainWord inFlow rest

/-- Read line ends after the first one, with blanks; none when a document begins or ends there. -/
def plainBreaks : Nat → Scan (Option (List Char))
  | 0 => refuse
  | fuel + 1 => do
    skipBlanks
    if ← sees isBreak then
      let text ← lineBreak
      if isDocumentBound (← get).rest then return none
      return (← plainBreaks fuel).map (text ++ ·)
    else return some []

/-- What stands between two words: the text it is read as, if the scalar may go on, and whether a line ends. -/
def plainSpaces (fuel : Nat) : Scan (List Char × Bool) := do
  let blanks ← takeWhile (· == ' ')
  if ← sees isBreak then
    let first ← lineBreak
    if isDocumentBound (← get).rest then return ([], true)
    match ← plainBreaks fuel with
    | none => return ([], true)
    | some more =>
      let kept := if first != ['\n'] then first else if more.isEmpty then [' '] else []
      return (kept ++ more, true)
  else return (blanks, false)

/-- Read words, given what has been read and what stands before the next word. -/
def plainFrom (inFlow : Bool) (indent : Int) : Nat → List Char → List Char → Bool → Scan (List Char × Bool)
  | 0, _, _, _ => refuse
  | fuel + 1, read, spaces, atBreak => do
    let word := plainWord inFlow (← get).rest
    if word.isEmpty then return (read, atBreak)
    skip word.length
    let read := read ++ spaces ++ word
    let (spaces, atBreak) ← plainSpaces fuel
    let c ← get
    if spaces.isEmpty || c.peek == some '#' || (!inFlow && (c.column : Int) < indent) then
      return (read, atBreak)
    else plainFrom inFlow indent fuel read spaces atBreak

/-- Read a plain scalar, and whether a line has ended after it. -/
def plainText (inFlow : Bool) (indent : Int) : Scan (String × Bool) := do
  let (text, atBreak) ← plainFrom inFlow indent ((← get).rest.length + 1) [] [] false
  return (String.ofList text, atBreak)

end Criteria.Yaml.Scan
