import Criteria.Pattern.Reader

set_option autoImplicit false
set_option relaxedAutoImplicit false

/-!
# Repetitions in patterns

A sign or counts between braces repeat the piece before them, and a further sign says which numbers of
rounds are tried first. Braces that hold no counts stand for themselves.
-/

namespace Criteria.PatternReading

open PatternToken

/-- The number of rounds from which a repetition is too large. -/
def tooManyRounds : Nat := 4294967295

def roundCount (digits : List Nat) : PatternReading (Option Nat) := do
  if digits.isEmpty then return none
  if digits.length > digitLimit then throw (.fault (.tooManyDigits digits.length))
  let count := ofDigits 10 digits
  if count ≥ tooManyRounds then throw (.fault .repetitionTooLarge)
  return some count

/-- The two counts between braces, and the rest; none when what follows the brace is no count. -/
def spanCounts (tokens : List PatternToken) : Option (List Nat × List Nat × List PatternToken) := do
  if tokens.head? == some (.plain '\x7d') then failure
  let (least, rest) := spanDigits 10 tokens.length tokens
  let (most, rest) ← match rest with
    | .plain ',' :: rest => some (spanDigits 10 rest.length rest)
    | rest => some (least, rest)
  match rest with
  | .plain '\x7d' :: rest => return (least, most, rest)
  | _ => failure

/-- Read the sign that says how many rounds of a repetition are tried first. -/
def greed : PatternReading Greed := do
  if ← accept '?' then return .lazy
  if ← accept '+' then return .possessive
  return .greedy

/-- Repeat the last piece; a place cannot be repeated, nor a repetition. -/
def repeatLast (least : Nat) (most : Option Nat) : List Piece → PatternReading (List Piece)
  | ⟨.thing, node⟩ :: rest => do
    let greed ← greed
    return ⟨.repetition, .repetition greed least most node⟩ :: rest
  | _ => refuse

/-- Read what follows an opening brace: counts for the last piece, or else the brace is itself. -/
def braces (pieces : List Piece) : PatternReading (List Piece) := do
  match spanCounts (← get).tokens with
  | none => return ⟨.thing, .point 123⟩ :: pieces
  | some (least, most, rest) =>
    modify fun r => { r with tokens := rest }
    let _ ← peek
    let least := (← roundCount least).getD 0
    let most ← roundCount most
    if most.any (· < least) then refuse
    repeatLast least most pieces

end Criteria.PatternReading
