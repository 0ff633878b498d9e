import Criteria.Text.Utf8
import Criteria.Yaml.Cursor
import Criteria.Yaml.Token

set_option autoImplicit false
set_option relaxedAutoImplicit false

/-!
# Names in a document

Anchors and aliases are words. A tag is a handle and a suffix, or is written out between angle
brackets; a suffix may hold escaped bytes. Directives give the version and the meaning of handles.
-/

namespace Criteria.Yaml.Scan

/-- Whether a character can stand in a word: a letter or digit of ASCII, or a line. -/
def isNameChar (c : Char) : Bool := c.isAlphanum || c == '-' || c == '_'

/-- Whether a character can stand in the suffix of a tag; a percent sign begins an escape. -/
def isUriChar (c : Char) : Bool := c.isAlphanum || "-;/?:@&=+$,_.!~*'()[]%".toList.contains c

/-- Pass over a word, which may not be empty. -/
def word : Scan String := do
  let chars ← takeWhile isNameChar
  if chars.isEmpty then refuse
  return String.ofList chars

/-- Pass over the name of an anchor or an alias and the sign before it. -/
def anchorName : Scan String := do
  skip 1
  let name ← word
  let next ← peek
  unless endsWord next || next.any ("?:,]\x7d%@`".toList.contains ·) do refuse
  return name

/-- The bytes that escapes write, and the text after them. -/
def escapedBytes : List Char → Option (List UInt8 × List Char)
  | '%' :: a :: b :: rest => do
    let high ← Text.digitOf? 16 a
    let low ← Text.digitOf? 16 b
    if a.toNat ≥ 128 || b.toNat ≥ 128 then failure
    let (bytes, rest) ← escapedBytes rest
    return (UInt8.ofNat (high * 16 + low) :: bytes, rest)
  | '%' :: _ => none
  | rest => some ([], rest)

def uriFrom : Nat → String → Scan String
  | 0, _ => refuse
  | fuel + 1, read => do
    let read := read ++ String.ofList (← takeWhile fun c => isUriChar c && c != '%')
    let c ← get
    if c.peek == some '%' then
      match escapedBytes c.rest with
      | some (bytes, _) =>
        match Text.ofUtf8? bytes with
        | some text =>
          skip (3 * bytes.length)
          uriFrom fuel (read ++ text)
        | none => refuse
      | none => refuse
    else return read

/-- Read the suffix of a tag, which may not be empty. -/
def uri : Scan String := do
  let c ← get
  unless c.sees isUriChar do refuse
  uriFrom (c.rest.length + 1) ""

/-- Read the handle of a tag, a word between exclamation marks or one such mark before a blank. -/
def handle : Scan String := do
  unless ← sees (· == '!') do refuse
  skip 1
  if ← sees (· == ' ') then return "!"
  let name ← takeWhile isNameChar
  unless ← sees (· == '!') do refuse
  skip 1
  return "!" ++ String.ofList name ++ "!"

/-- Read the handle and suffix of a tag after its first exclamation mark has been seen. -/
def tagParts : Scan (Option String × String) := do
  let after := (← get).rest.drop 1
  if after.head? == some '<' then
    skip 2
    let suffix ← uri
    unless ← sees (· == '>') do refuse
    skip 1
    return (none, suffix)
  else if endsWord after.head? then
    skip 1
    return (none, "!")
  else if (after.takeWhile fun c => !endsPart (some c)).contains '!' then
    let handle ← handle
    return (some handle, ← uri)
  else
    skip 1
    return (some "!", ← uri)

def tag : Scan Token := do
  let (handle, suffix) ← tagParts
  unless endsPart (← peek) do refuse
  return .tag handle suffix

def version : Scan Directive := do
  skipBlanks
  let major ← number
  unless ← sees (· == '.') do refuse
  skip 1
  let minor ← number
  unless endsPart (← peek) do refuse
  return .version major minor

def tagHandle : Scan Directive := do
  skipBlanks
  let handle ← handle
  unless ← sees (· == ' ') do refuse
  skipBlanks
  let stem ← uri
  unless endsPart (← peek) do refuse
  return .tagHandle handle stem

def directive : Scan Token := do
  skip 1
  let name ← word
  unless endsPart (← peek) do refuse
  let d ←
    if name == "YAML" then version
    else if name == "TAG" then tagHandle
    else do
      let _ ← takeWhile fun c => !isBreak c
      pure .other
  lineEnd
  return .directive d

end Criteria.Yaml.Scan
