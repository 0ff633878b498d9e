import Criteria.Yaml.Cursor

set_option autoImplicit false
set_option relaxedAutoImplicit false

/-!
# Quoted scalars

Between single quotes two quotes are one, and nothing else is escaped; between double quotes a
backslash begins an escape. A single line end is a blank, further ones are kept, and blanks around
line ends are dropped.
-/

namespace Criteria.Yaml.Scan

def shortEscape? (c : Char) : Option Nat :=
  [('0', 0), ('a', 7), ('b', 8), ('t', 9), ('\t', 9), ('n', 10), ('v', 11), ('f', 12), ('r', 13),
    ('e', 0x1b), (' ', 32), ('"', 34), ('\\', 92), ('/', 47), ('N', 0x85), ('_', 0xa0),
    ('L', 0x2028), ('P', 0x2029)].lookup c

def longEscape? (c : Char) : Option Nat := [('x', 2), ('u', 4), ('U', 8)].lookup c

def codePoint (count : Nat) : Scan Nat := do
  let digits := (← get).rest.take count
  let isHex (c : Char) : Bool := c.toNat < 128 && (Text.digitOf? 16 c).isSome
  unless digits.length == count && digits.all isHex do refuse
  skip count
  let point := digits.foldl (fun value c => value * 16 + (Text.digitOf? 16 c).getD 0) 0
  if point > 0x7fffffff then throw .codeTooLarge
  if point > 0x10ffff then throw .codeNotCharacter
  return point

/-- Read line ends after the first one, with the blanks around them. -/
def furtherBreaks : Nat → Scan (List Char)
  | 0 => refuse
  | fuel + 1 => do
    if isDocumentBound (← get).rest then refuse
    let _ ← takeWhile fun c => c == ' ' || c == '\t'
    if ← sees isBreak then
      let text ← lineBreak
      return text ++ (← furtherBreaks fuel)
    else return []

/-- Read an escape after its backslash. -/
def quotedEscape (fuel : Nat) : Scan (List Nat) := do
  match ← peek with
  | none => refuse
  | some c =>
    match shortEscape? c, longEscape? c with
    | some point, _ =>
      skip 1
      return [point]
    | none, some count =>
      skip 1
      return [← codePoint count]
    | none, none =>
      unless isBreak c do refuse
      let _ ← lineBreak
      return (← furtherBreaks fuel).map Char.toNat

def quotedSpaces (fuel : Nat) : Scan (List Nat) := do
  let blanks ← takeWhile fun c => c == ' ' || c == '\t'
  match ← peek with
  | none => refuse
  | some c =>
    if isBreak c then
      let first ← lineBreak
      let more ← furtherBreaks fuel
      let kept := if first != ['\n'] then first else if more.isEmpty then [' '] else []
      return (kept ++ more).map Char.toNat
    else return blanks.map Char.toNat

def endsQuotedRun (c : Char) : Bool :=
  c == '\x27' || c == '"' || c == '\\' || c == ' ' || c == '\t' || isBreak c

def quotedFrom (double : Bool) : Nat → List (List Nat) → Scan (List Nat)
  | 0, _ => refuse
  | fuel + 1, read => do
    let run ← takeWhile fun c => !endsQuotedRun c
    let read := run.map Char.toNat :: read
    match (← get).rest with
    | [] => refuse
    | c :: rest =>
      if c == '\x27' && !double then
        if rest.head? == some '\x27' then
          skip 2
          quotedFrom double fuel ([39] :: read)
        else
          skip 1
          return read.reverse.flatten
      else if c == '"' && double then
        skip 1
        return read.reverse.flatten
      else if c == '\\' && double then
        skip 1
        let points ← quotedEscape fuel
        quotedFrom double fuel (points :: read)
      else if c == ' ' || c == '\t' || isBreak c then
        let points ← quotedSpaces fuel
        quotedFrom double fuel (points :: read)
      else
        skip 1
        quotedFrom double fuel ([c.toNat] :: read)

/-- The characters of code points; a pair of surrogates is one character. -/
def charsOfPoints : List Nat → List Char
  | [] => []
  | [point] => [Char.ofNat point]
  | high :: low :: rest =>
    if 0xd800 ≤ high && high < 0xdc00 && 0xdc00 ≤ low && low < 0xe000 then
      Char.ofNat (0x10000 + (high - 0xd800) * 0x400 + (low - 0xdc00)) :: charsOfPoints rest
    else Char.ofNat high :: charsOfPoints (low :: rest)

def quotedText (double : Bool) : Scan String := do
  skip 1
  let points ← quotedFrom double ((← get).rest.length + 1) []
  return String.ofList (charsOfPoints points)

end Criteria.Yaml.Scan
