import Criteria.Text.CodeSet
import Criteria.Text.Integer
import Criteria.Text.NameTable

set_option autoImplicit false
set_option relaxedAutoImplicit false

/-!
# Characters by name

`pointNamed?` finds the code point of a character by its name or an alias of it. The names of unified
ideographs and of Korean syllables are built by rule and have to be written in capital letters; all
others are found in a table, however their letters are written.
-/

namespace Criteria.Text

def hexValue (digits : List Char) : Nat :=
  digits.foldl (fun value c => value * 16 + (digitOf? 16 c).getD 0) 0

def isCapitalHexDigit (c : Char) : Bool := c.isDigit || ('A' ≤ c && c ≤ 'F')

def after? (opening : String) (text : List Char) : Option (List Char) :=
  if opening.toList.isPrefixOf text then some (text.drop opening.length) else none

/-! ## Names that number their characters -/

structure NumberedNames where
  opening : String
  points : CodeSet

def unifiedIdeographs : NumberedNames where
  opening := "CJK UNIFIED IDEOGRAPH-"
  points := ⟨#[
    0x3400, 0x4dc0, 0x4e00, 0xa000, 0x20000, 0x2a6e0, 0x2a700, 0x2b739, 0x2b740, 0x2b81e,
    0x2b820, 0x2cea2, 0x2ceb0, 0x2ebe1, 0x30000, 0x3134b]⟩

def numberedNames : List NumberedNames := [
  ⟨"CJK COMPATIBILITY IDEOGRAPH-", ⟨#[0xf900, 0xfa6e, 0xfa70, 0xfada, 0x2f800, 0x2fa1e]⟩⟩,
  ⟨"KHITAN SMALL SCRIPT CHARACTER-", ⟨#[0x18b00, 0x18cd6]⟩⟩,
  ⟨"NUSHU CHARACTER-", ⟨#[0x1b170, 0x1b2fc]⟩⟩]

def NumberedNames.pointOf? (family : NumberedNames) (digits : List Char) : Option Nat :=
  if (digits.length == 4 || digits.length == 5) && digits.all isCapitalHexDigit &&
      family.points.contains (hexValue digits) then some (hexValue digits)
  else none

/-- The code point of a family that has a name; the digits in the name have no zero before them. -/
def NumberedNames.pointNamed? (name : List Char) (family : NumberedNames) : Option Nat := do
  let digits ← after? family.opening name
  if digits.head? == some '0' then none else family.pointOf? digits

/-! ## Names of Korean syllables -/

/-- The names of the letters that begin a syllable, of its vowels and of the letters that end it. -/
def leadNames : List String :=
  ["G", "GG", "N", "D", "DD", "R", "M", "B", "BB", "S", "SS", "", "J", "JJ", "C", "K", "T", "P", "H"]

def vowelNames : List String :=
  ["A", "AE", "YA", "YAE", "EO", "E", "YEO", "YE", "O", "WA", "WAE", "OE", "YO", "U", "WEO", "WE",
    "WI", "YU", "EU", "YI", "I"]

def tailNames : List String :=
  ["", "G", "GG", "GS", "N", "NJ", "NH", "D", "L", "LG", "LM", "LB", "LS", "LT", "LP", "LH", "M", "B",
    "BS", "S", "SS", "NG", "J", "C", "K", "T", "P", "H"]

def takeLongest? (names : List String) (text : List Char) : Option (Nat × List Char) :=
  names.zipIdx.foldl
    (fun best (name, place) =>
      match after? name text, best with
      | some rest, some (_, shortest) =>
        if rest.length < shortest.length then some (place, rest) else best
      | some rest, none => some (place, rest)
      | none, _ => best)
    none

def syllablePoint? (name : List Char) : Option Nat := do
  let (lead, name) ← takeLongest? leadNames name
  let (vowel, name) ← takeLongest? vowelNames name
  let (tail, name) ← takeLongest? tailNames name
  if name.isEmpty then some (0xac00 + (lead * vowelNames.length + vowel) * tailNames.length + tail)
  else none

/-! ## Names in the table -/

def entriesOf (packed : String) : List String := packed.splitToList fun c => c == ';' || c == '\n'

def packedName (words : List String) (name : List Char) : List Char :=
  -- A word takes along the blank or dash before it.
  (name.splitBy fun _ c => c != ' ' && c != '-').flatMap fun word =>
    match words.idxOf? (String.ofList word) with
    | some place => [Char.ofNat (97 + place / 26), Char.ofNat (97 + place % 26)]
    | none => word

/-- The code point and packed name of an entry of the table, by those of the entry before it. -/
def unpackEntry (before : Nat × List Char) (entry : String) : Nat × List Char :=
  let (point, written) :=
    match entry.toList with
    | '!' :: rest => (hexValue (rest.takeWhile (· != ' ')), (rest.dropWhile (· != ' ')).tail)
    | written => (before.1 + 1, written)
  match written with
  | [] => (point, [])
  | shared :: rest => (point, before.2.take ((placeValue? shared).getD 0) ++ rest)

/-- The code point of the first entry that has a packed name. -/
def pointInTable? (wanted : List Char) : Nat × List Char → List String → Option Nat
  | _, [] => none
  | before, entry :: entries =>
    let (point, name) := unpackEntry before entry
    if name == wanted then some point else pointInTable? wanted (point, name) entries

def pointNamed? (name : String) : Option Nat :=
  let name := name.toList
  match after? "HANGUL SYLLABLE " name, after? unifiedIdeographs.opening name with
  | some syllable, _ => syllablePoint? syllable
  | none, some digits => unifiedIdeographs.pointOf? digits
  | none, none =>
    let name := name.map Char.toUpper
    match numberedNames.findSome? (NumberedNames.pointNamed? name) with
    | some point => some point
    | none =>
      pointInTable? (packedName (entriesOf nameWords) name) (0, []) (entriesOf nameTable)

end Criteria.Text
