import Criteria.Yaml.BlockText
import Criteria.Yaml.Name
import Criteria.Yaml.PlainText
import Criteria.Yaml.QuotedText

set_option autoImplicit false
set_option relaxedAutoImplicit false

/-!
# The tokens of a text

Tokens are found one after another. A node that may turn out to be a key is remembered by its place
among the tokens: when a colon follows it on its line, the sign of a key is put in front of it, and
where a mapping begins with it also the sign of the mapping.
-/

namespace Criteria.Yaml

/-- A node that may turn out to be a key; where nothing else can stand it has to. -/
structure PossibleKey where
  position : Nat
  required : Bool
  index : Nat
  line : Nat
  column : Nat

/-- What is known after some tokens have been found. -/
structure Tokenizer where
  cursor : Cursor
  tokens : Array Token := #[]
  flowLevel : Nat := 0
  indent : Int := -1
  outerIndents : List Int := []
  keyAllowed : Bool := true
  possibleKeys : List (Nat × PossibleKey) := []

abbrev Tokenizing := StateT Tokenizer (Except Fault)

namespace Tokenizing

def refuse {α : Type} : Tokenizing α := throw (.load .invalidDocument)

def scan {α : Type} (step : Scan α) : Tokenizing α := do
  let (a, cursor) ← step.run (← get).cursor
  modify fun t => { t with cursor }
  return a

def emit (token : Token) : Tokenizing Unit := modify fun t => { t with tokens := t.tokens.push token }

def emitAt (position : Nat) (token : Token) : Tokenizing Unit :=
  modify fun t => { t with tokens := t.tokens.insertIdxIfInBounds position token }

def allowKey (allowed : Bool) : Tokenizing Unit := modify fun t => { t with keyAllowed := allowed }

def inFlow : Tokenizing Bool := return (← get).flowLevel > 0

/-- Forget what cannot be a key any more: it lies on another line, or too far back. -/
def dropStaleKeys : Tokenizing Unit := do
  let t ← get
  let isStale (key : PossibleKey) : Bool :=
    key.line != t.cursor.line || t.cursor.index > key.index + 1024
  if t.possibleKeys.any fun (_, key) => isStale key && key.required then refuse
  set { t with possibleKeys := t.possibleKeys.filter fun (_, key) => !isStale key }

def dropKey : Tokenizing Unit := do
  let t ← get
  if t.possibleKeys.any fun (level, key) => level == t.flowLevel && key.required then refuse
  set { t with possibleKeys := t.possibleKeys.filter fun (level, _) => level != t.flowLevel }

def noteKey : Tokenizing Unit := do
  let t ← get
  if t.keyAllowed then
    dropKey
    let c := t.cursor
    let key : PossibleKey := {
      position := t.tokens.size
      required := t.flowLevel == 0 && t.indent == c.column
      index := c.index
      line := c.line
      column := c.column }
    modify fun t => { t with possibleKeys := (t.flowLevel, key) :: t.possibleKeys }

def closeTo (column : Int) : List Int → Tokenizing Unit
  | [] => return
  | outer :: rest => do
    if column < (← get).indent then
      modify fun t => { t with indent := outer, outerIndents := rest }
      emit .blockEnd
      closeTo column rest

/-- Close the collections that are indented more than a column; within brackets there are none. -/
def unwind (column : Int) : Tokenizing Unit := do
  let t ← get
  if t.flowLevel == 0 then closeTo column t.outerIndents

/-- Indent to a column, if that is further than before. -/
def indentTo (column : Nat) : Tokenizing Bool := do
  let t ← get
  if t.indent < column then
    set { t with indent := (column : Int), outerIndents := t.indent :: t.outerIndents }
    return true
  return false

def streamEnd : Tokenizing Unit := do
  unwind (-1)
  dropKey
  modify fun t => { t with keyAllowed := false, possibleKeys := [] }
  emit .streamEnd

def directive : Tokenizing Unit := do
  unwind (-1)
  dropKey
  allowKey false
  emit (← scan Scan.directive)

def documentSign (token : Token) : Tokenizing Unit := do
  unwind (-1)
  dropKey
  allowKey false
  scan (Scan.skip 3)
  emit token

def openFlow (token : Token) : Tokenizing Unit := do
  noteKey
  modify fun t => { t with flowLevel := t.flowLevel + 1, keyAllowed := true }
  scan (Scan.skip 1)
  emit token

def closeFlow (token : Token) : Tokenizing Unit := do
  dropKey
  modify fun t => { t with flowLevel := t.flowLevel - 1, keyAllowed := false }
  scan (Scan.skip 1)
  emit token

def flowEntry : Tokenizing Unit := do
  allowKey true
  dropKey
  scan (Scan.skip 1)
  emit .flowEntry

def blockSign (collection : Token) : Tokenizing Unit := do
  unless ← inFlow do
    unless (← get).keyAllowed do refuse
    if ← indentTo (← get).cursor.column then emit collection

def blockEntry : Tokenizing Unit := do
  blockSign .blockSequenceStart
  allowKey true
  dropKey
  scan (Scan.skip 1)
  emit .blockEntry

def keySign : Tokenizing Unit := do
  blockSign .blockMappingStart
  allowKey !(← inFlow)
  dropKey
  scan (Scan.skip 1)
  emit .key

/-- Find the sign of a value, and see whether what came before was its key. -/
def valueSign : Tokenizing Unit := do
  let t ← get
  match t.possibleKeys.lookup t.flowLevel with
  | some key =>
    set { t with possibleKeys := t.possibleKeys.filter fun (level, _) => level != t.flowLevel }
    emitAt key.position .key
    if t.flowLevel == 0 then
      if ← indentTo key.column then emitAt key.position .blockMappingStart
    allowKey false
  | none =>
    blockSign .blockMappingStart
    allowKey !(← inFlow)
    dropKey
  scan (Scan.skip 1)
  emit .value

def nodePart (step : Scan Token) : Tokenizing Unit := do
  noteKey
  allowKey false
  emit (← scan step)

def blockScalar (folded : Bool) : Tokenizing Unit := do
  allowKey true
  dropKey
  let text ← scan (Scan.blockText folded (← get).indent)
  emit (.scalar text false)

def plainScalar : Tokenizing Unit := do
  noteKey
  allowKey false
  let t ← get
  let (text, atBreak) ← scan (Scan.plainText (t.flowLevel > 0) (t.indent + 1))
  if atBreak then allowKey true
  emit (.scalar text true)

/-- Pass over blanks, remarks and empty lines. -/
def skipToToken : Nat → Tokenizing Unit
  | 0 => return
  | fuel + 1 => do
    scan Scan.skipBlanks
    if ← scan (Scan.sees (· == '#')) then
      let _ ← scan (Scan.takeWhile fun c => !isBreak c)
    if ← scan (Scan.sees isBreak) then
      let _ ← scan Scan.lineBreak
      unless ← inFlow do allowKey true
      skipToToken fuel

def skipMark : Tokenizing Unit := do
  let c := (← get).cursor
  if c.index == 0 && c.peek == some byteOrderMark then scan (Scan.skip 1)

def beginsPlain (c : Char) : Bool :=
  !endsWord (some c) && !("-?:,[]\x7b\x7d#&*!|>'\"%@`".toList.contains c)

def tokenAt (c : Char) (rest : List Char) : Tokenizing Unit := do
  let t ← get
  let inFlow := t.flowLevel > 0
  let atStart := t.cursor.column == 0
  let alone := endsWord rest.head?
  if c == '%' && atStart then directive
  else if c == '-' && atStart && isDocumentMark '-' (c :: rest) then documentSign .documentStart
  else if c == '.' && atStart && isDocumentMark '.' (c :: rest) then documentSign .documentEnd
  else if c == '[' then openFlow .flowSequenceStart
  else if c == '\x7b' then openFlow .flowMappingStart
  else if c == ']' then closeFlow .flowSequenceEnd
  else if c == '\x7d' then closeFlow .flowMappingEnd
  else if c == ',' then flowEntry
  else if c == '-' && alone then blockEntry
  else if c == '?' && (inFlow || alone) then keySign
  else if c == ':' && (inFlow || alone) then valueSign
  else if c == '*' then nodePart do return .alias (← Scan.anchorName)
  else if c == '&' then nodePart do return .anchor (← Scan.anchorName)
  else if c == '!' then nodePart Scan.tag
  else if c == '|' && !inFlow then blockScalar false
  else if c == '>' && !inFlow then blockScalar true
  else if c == '\x27' then nodePart do return .scalar (← Scan.quotedText false) false
  else if c == '"' then nodePart do return .scalar (← Scan.quotedText true) false
  else if beginsPlain c || (!alone && (c == '-' || (!inFlow && (c == '?' || c == ':')))) then plainScalar
  else refuse

def nextToken : Tokenizing Bool := do
  skipMark
  skipToToken ((← get).cursor.rest.length + 1)
  dropStaleKeys
  unwind (← get).cursor.column
  match (← get).cursor.rest with
  | [] =>
    streamEnd
    return true
  | c :: rest =>
    tokenAt c rest
    return false

end Tokenizing

namespace Tokenizer

def run : Nat → Tokenizer → Array Token × Option Fault
  | 0, t => (t.tokens, some (.load .invalidDocument))
  | fuel + 1, t =>
    match Tokenizing.nextToken.run t with
    | .ok (true, t) => (t.tokens, none)
    | .ok (false, t) => run fuel t
    | .error f => (t.tokens, some f)

end Tokenizer

/-- The tokens of a text, and the fault that ends them before the text does. -/
def Token.ofText (text : String) : List Token × Option Fault :=
  let chars := text.toList
  let (tokens, fault) := Tokenizer.run (chars.length + 2) { cursor := { rest := chars } }
  (tokens.toList, fault)

end Criteria.Yaml
