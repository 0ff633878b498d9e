import Criteria.Pattern.Escape
import Criteria.Pattern.Group
import Criteria.Pattern.Repetition

set_option autoImplicit false
set_option relaxedAutoImplicit false

/-!
# Reading patterns

A pattern is alternatives of sequences of pieces, and groups hold alternatives in turn. `Pattern.read`
gives the tree and all flags, those of the pattern's own text included, or says why the text is no
pattern.
-/

namespace Criteria

namespace PatternReading

open PatternToken

mutual

def alternatives : Nat → Bool → Bool → PatternReading PatternNode
  | 0, _, _ => refuse
  | fuel + 1, verbose, outer => do
    let first ← pieces fuel verbose outer []
    moreAlternatives fuel verbose outer [first]

/-- Read the alternatives after those read so far. -/
def moreAlternatives : Nat → Bool → Bool → List PatternNode → PatternReading PatternNode
  | 0, _, _, _ => refuse
  | fuel + 1, verbose, outer, read => do
    if ← accept '|' then
      let r ← get
      let verbose := if outer then r.flags.verbose else verbose
      let node ← pieces fuel verbose false []
      moreAlternatives fuel verbose outer (node :: read)
    else return .oneOfAll read.reverse

def pieces : Nat → Bool → Bool → List Piece → PatternReading PatternNode
  | 0, _, _, _ => refuse
  | fuel + 1, verbose, opening, read => do
    let some token ← peek | return finish read
    if token == .plain '|' || token == .plain ')' then return finish read
    skip
    if verbose && token.isFiller then pieces fuel verbose opening read
    else if verbose && token == .plain '#' then
      modify fun r => { r with tokens := dropThrough '\n' r.tokens }
      pieces fuel verbose opening read
    else
      match token with
      | .dangling => refuse
      | .escaped c => do
        let piece ← escape c
        pieces fuel verbose opening (piece :: read)
      | .plain c =>
        if c == '[' then do
          let piece ← set
          pieces fuel verbose opening (piece :: read)
        else if c == '?' then do pieces fuel verbose opening (← repeatLast 0 (some 1) read)
        else if c == '*' then do pieces fuel verbose opening (← repeatLast 0 none read)
        else if c == '+' then do pieces fuel verbose opening (← repeatLast 1 none read)
        else if c == '\x7b' then do pieces fuel verbose opening (← braces read)
        else if c == '.' then pieces fuel verbose opening (⟨.thing, .any⟩ :: read)
        else if c == '^' then pieces fuel verbose opening (⟨.place, .anchor .lineStart⟩ :: read)
        else if c == '$' then pieces fuel verbose opening (⟨.place, .anchor .lineStop⟩ :: read)
        else if c == '(' then do
          match ← groupHead (opening && read.isEmpty) with
          | .complete piece => pieces fuel verbose opening (piece.toList ++ read)
          | .flagged =>
            let r ← get
            pieces fuel r.flags.verbose opening read
          | head => do
            let piece ← groupBody fuel verbose head
            pieces fuel verbose opening (piece :: read)
        else pieces fuel verbose opening (⟨.thing, .point c.toNat⟩ :: read)
where
  /-- The pieces read, as one node. -/
  finish (read : List Piece) : PatternNode := .all (read.reverse.map (·.node))

def groupBody : Nat → Bool → GroupHead → PatternReading Piece
  | 0, _, _ => refuse
  | fuel + 1, verbose, head => do
    match head with
    | .capture name =>
      let group ← openGroup name
      let body ← alternatives fuel verbose false
      expect ')'
      closeGroup group body
      return ⟨.thing, .capture group body⟩
    | .plain =>
      let body ← alternatives fuel verbose false
      expect ')'
      return ⟨.thing, body⟩
    | .atomic =>
      let body ← alternatives fuel verbose false
      expect ')'
      return ⟨.thing, .atomic body⟩
    | .scoped on off unicode =>
      let body ← alternatives fuel ((verbose || on.verbose) && !off.verbose) false
      expect ')'
      return ⟨.thing, .scoped on off unicode body⟩
    | .look false negated =>
      let body ← alternatives fuel verbose false
      expect ')'
      return ⟨.thing, .ahead negated body⟩
    | .look true negated =>
      let outer := (← get).behindFrom
      let count ← groupCount
      modify fun r => { r with behindFrom := some (outer.getD count) }
      let body ← alternatives fuel verbose false
      modify fun r => { r with behindFrom := outer }
      expect ')'
      return ⟨.thing, .behind negated (← widthOf body) body⟩
    | .whether group =>
      let yes ← pieces fuel verbose false []
      let no ← if ← accept '|' then pieces fuel verbose false [] else pure .empty
      expect ')'
      return ⟨.thing, .whether group yes no⟩
    | .complete _ => refuse
    | .flagged => refuse

end

/-- Read a whole pattern and check what only the whole can tell. -/
def whole (fuel : Nat) (verbose : Bool) : PatternReading PatternNode := do
  let node ← alternatives fuel verbose true
  let r ← get
  if r.flags.ascii && r.unicode then throw (.fault .conflictingFlags)
  unless r.tokens.isEmpty do refuse
  if r.conditions.any (· > r.widths.length) then refuse
  if r.template && node.repeats then refuse
  unless node.looksBackFixed do refuse
  return node

end PatternReading

def PatternSource.chars : PatternSource → List Char
  | .text s => s.toList
  | .bytes b => b.map fun byte => Char.ofNat byte.toNat

def PatternSource.isText : PatternSource → Bool
  | .text _ => true
  | .bytes _ => false

namespace Pattern

def read (source : List Char) (flags : PatternFlags) (isText : Bool := true) :
    Except PatternFault (PatternNode × PatternFlags) := do
  let tokens := PatternToken.ofChars source
  let (node, r) ←
    (PatternReading.whole (3 * tokens.length + 6) flags.verbose).run { tokens, flags, isText }
  return (node, r.flags)

def ofSource (source : PatternSource) (flags : PatternFlags) : Except PatternFault Pattern := do
  let (_, flags) ← read source.chars flags source.isText
  return ⟨source, flags⟩

end Pattern

end Criteria
