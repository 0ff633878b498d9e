import Criteria.Pattern.Reading

set_option autoImplicit false
set_option relaxedAutoImplicit false

/-!
# Searching for patterns

A node is run at a spot of a text together with what is to follow: it hands over each spot at which it
can end, in order of preference, until what follows accepts one. So alternatives are tried from left
to right, and a repetition tries one number of rounds after another.
-/

namespace Criteria

/-- A place in a text, and the stretches that the groups have covered on the way to it. -/
structure Spot where
  position : Nat
  groups : List (Nat × Nat × Nat)

abbrev Follow := Spot → Option Spot

namespace SetItem

def contains (ascii : Bool) (x : Char) : SetItem → Bool
  | .point p => x.toNat == p
  | .range first last => first ≤ x.toNat && x.toNat ≤ last
  | .ofClass c negated => c.contains ascii x != negated

def containsAlike (ascii : Bool) (x : Char) (item : SetItem) : Bool :=
  match item with
  | .ofClass .. => item.contains ascii x
  | _ =>
    let alike := if ascii then asciiAlike x.toNat else Text.alikePoints x.toNat
    alike.any fun point => item.contains ascii (Char.ofNat point)
where
  /-- The code points alike to a given one when only the letters of ASCII have case. -/
  asciiAlike (point : Nat) : List Nat :=
    let lower := Text.lowerAscii point
    if 97 ≤ lower && lower ≤ 122 then [lower, lower - 32] else [lower]

end SetItem

namespace PatternFlags

def holds (f : PatternFlags) (x : Char) (item : SetItem) : Bool :=
  if f.ignoreCase then item.containsAlike f.ascii x else item.contains f.ascii x

def repeats (f : PatternFlags) (x y : Char) : Bool :=
  if !f.ignoreCase then x == y
  else if f.ascii then Text.lowerAscii x.toNat == Text.lowerAscii y.toNat
  else Text.lowerPoint x.toNat == Text.lowerPoint y.toNat

def within (f on off : PatternFlags) (unicode : Bool) : PatternFlags :=
  let f := if unicode then { f with ascii := false } else f
  (f.union on).without off

end PatternFlags

namespace Anchor

def isWordAt (ascii : Bool) (text : Array Char) (index : Nat) : Bool :=
  match text[index]? with
  | some x => CharClass.word.contains ascii x
  | none => false

/-- Whether a place lies between a character of a word and none. -/
def isBoundary (ascii : Bool) (text : Array Char) (position : Nat) : Bool :=
  (position > 0 && isWordAt ascii text (position - 1)) != isWordAt ascii text position

def holds (f : PatternFlags) (text : Array Char) (position : Nat) : Anchor → Bool
  | .lineStart => position == 0 || (f.multiline && text[position - 1]? == some '\n')
  | .lineStop =>
    position == text.size
      || (text[position]? == some '\n' && (f.multiline || position + 1 == text.size))
  | .textStart => position == 0
  | .textStop => position == text.size
  | .boundary => !text.isEmpty && isBoundary f.ascii text position
  | .notBoundary => !text.isEmpty && !isBoundary f.ascii text position

end Anchor

namespace Spot

/-- The spot after one more character, where that character is admitted. -/
def advance (text : Array Char) (admits : Char → Bool) (s : Spot) (follow : Follow) : Option Spot :=
  match text[s.position]? with
  | some x => if admits x then follow { s with position := s.position + 1 } else none
  | none => none

def group? (s : Spot) (group : Nat) : Option (Nat × Nat) := s.groups.lookup group

def close (s : Spot) (group start : Nat) : Spot :=
  { s with groups := (group, start, s.position) :: s.groups.filter (·.1 != group) }

def repeatsStretch (f : PatternFlags) (text : Array Char) (start : Nat) : Nat → Nat → Bool
  | _, 0 => true
  | position, count + 1 =>
    match text[start]?, text[position]? with
    | some x, some y => f.repeats x y && repeatsStretch f text (start + 1) (position + 1) count
    | _, _ => false

/-- The spot after what a group has covered is there once more. -/
def refer (f : PatternFlags) (text : Array Char) (group : Nat) (s : Spot) (follow : Follow) :
    Option Spot :=
  match s.group? group with
  | none => none
  | some (start, stop) =>
    if repeatsStretch f text start s.position (stop - start) then
      follow { s with position := s.position + (stop - start) }
    else none

end Spot

/-- One round of a repetition. -/
abbrev Round := Spot → Follow → Option Spot

namespace Round

/-- An exact number of rounds. -/
def times (round : Round) : Nat → Spot → Follow → Option Spot
  | 0, s, follow => follow s
  | count + 1, s, follow => round s fun s' => times round count s' follow

/-- As many more rounds as can be had, and fewer if need be; an empty round is the last. -/
def greedily (round : Round) : Nat → Spot → Follow → Option Spot
  | 0, s, follow => follow s
  | count + 1, s, follow =>
    match round s fun s' =>
        if s'.position == s.position then follow s' else greedily round count s' follow with
    | some found => some found
    | none => follow s

/-- No more rounds, or else as few as will do; an empty round is the last. -/
def lazily (round : Round) : Nat → Spot → Follow → Option Spot
  | 0, s, follow => follow s
  | count + 1, s, follow =>
    match follow s with
    | some found => some found
    | none => round s fun s' =>
        if s'.position == s.position then follow s' else lazily round count s' follow

/-- As many more rounds as can be had, each settled for good. -/
def settled (round : Round) : Nat → Spot → Spot
  | 0, s => s
  | count + 1, s =>
    match round s some with
    | some s' => if s'.position == s.position then s' else settled round count s'
    | none => s

/-- The rounds of a repetition; a text of bounded length has room for boundedly many. -/
def repeated (round : Round) (room : Nat) (greed : Greed) (least : Nat) (most : Option Nat)
    (s : Spot) (follow : Follow) : Option Spot :=
  let further := match most with
    | some most => min (most - least) (room + 1)
    | none => room + 1
  match greed with
  | .greedy => times round least s fun s' => greedily round further s' follow
  | .lazy => times round least s fun s' => lazily round further s' follow
  | .possessive =>
    match times (fun s k => (round s some).bind k) least s some with
    | some s' => follow (settled round further s')
    | none => none

end Round

namespace PatternNode

def run (text : Array Char) : PatternNode → PatternFlags → Spot → Follow → Option Spot
  | .empty, _, s, follow => follow s
  | .point p, f, s, follow => s.advance text (f.holds · (.point p)) follow
  | .any, f, s, follow => s.advance text (fun x => f.dotAll || x != '\n') follow
  | .oneOf negated items, f, s, follow =>
    s.advance text (fun x => items.any (f.holds x) != negated) follow
  | .anchor a, f, s, follow => if a.holds f text s.position then follow s else none
  | .both first second, f, s, follow => run text first f s fun s' => run text second f s' follow
  | .either first second, f, s, follow =>
    match run text first f s follow with
    | some found => some found
    | none => run text second f s follow
  | .capture group body, f, s, follow =>
    run text body f s fun s' => follow (s'.close group s.position)
  | .scoped on off unicode body, f, s, follow => run text body (f.within on off unicode) s follow
  | .repetition greed least most body, f, s, follow =>
    Round.repeated (run text body f) text.size greed least most s follow
  | .atomic body, f, s, follow => (run text body f s some).bind follow
  | .ahead negated body, f, s, follow =>
    match run text body f s some, negated with
    | some found, false => follow { found with position := s.position }
    | none, true => follow s
    | _, _ => none
  | .behind negated width body, f, s, follow =>
    let found :=
      if width.least ≤ s.position then
        run text body f { s with position := s.position - width.least } some
      else none
    match found, negated with
    | some found, false => follow { found with position := s.position }
    | none, true => follow s
    | _, _ => none
  | .reference group, f, s, follow => s.refer f text group follow
  | .whether group yes no, f, s, follow =>
    if (s.group? group).isSome then run text yes f s follow else run text no f s follow

/-- Whether a node can be found in a text, from the given number of places before its end. -/
def occursFrom (text : Array Char) (node : PatternNode) (f : PatternFlags) : Nat → Bool
  | 0 => (run text node f ⟨text.size, []⟩ some).isSome
  | left + 1 =>
    (run text node f ⟨text.size - (left + 1), []⟩ some).isSome || occursFrom text node f left

end PatternNode

namespace Pattern

def isFoundIn (source : List Char) (flags : PatternFlags) (text : String) :
    Except PatternFault Bool := do
  let (node, flags) ← read source flags
  let text := text.toList.toArray
  return node.occursFrom text flags text.size

/-- Whether a pattern can be found in a text; a pattern of bytes cannot be looked for in one. -/
def search (p : Pattern) (text : String) : Except Fault Bool :=
  match p.source with
  | .bytes _ => .error .wrongType
  | .text s =>
    match isFoundIn s.toList p.flags text with
    | .ok found => .ok found
    | .error .malformed => .ok false
    | .error (.fault f) => .error f

/-- Whether the pattern that one text writes can be found in another; a text that is no pattern cannot. -/
def searchText (source text : String) : Except Fault Bool := search ⟨.text source, {}⟩ text

end Pattern

end Criteria
