import Criteria.Text.Integer

set_option autoImplicit false
set_option relaxedAutoImplicit false

/-!
# Tokens of patterns

A written pattern is cut into tokens, a backslash going with the character after it. Digits are read
from the front of the tokens, and comments and names up to the sign that closes them.
-/

namespace Criteria

/-- A character of a written pattern, or a backslash and what it escapes; nothing may be missing. -/
inductive PatternToken
  | plain (c : Char)
  | escaped (c : Char)
  | dangling
  deriving DecidableEq, Repr

namespace PatternToken

def ofChars : List Char → List PatternToken
  | [] => []
  | ['\\'] => [.dangling]
  | '\\' :: c :: rest => .escaped c :: ofChars rest
  | c :: rest => .plain c :: ofChars rest

def chars : PatternToken → List Char
  | .plain c => [c]
  | .escaped c => ['\\', c]
  | .dangling => ['\\']

def digit? (base : Nat) : PatternToken → Option Nat
  | .plain c => if c.toNat < 128 then Text.digitOf? base c else none
  | _ => none

def isFiller : PatternToken → Bool
  | .plain c => c == ' ' || (9 ≤ c.toNat && c.toNat ≤ 13)
  | _ => false

/-- The leading digits of a base, no more than a limit, and the rest. -/
def spanDigits (base : Nat) : Nat → List PatternToken → List Nat × List PatternToken
  | 0, tokens => ([], tokens)
  | _, [] => ([], [])
  | limit + 1, token :: rest =>
    match token.digit? base with
    | some digit =>
      let (digits, rest) := spanDigits base limit rest
      (digit :: digits, rest)
    | none => ([], token :: rest)

/-- What stands before a closing character, and the rest after it. -/
def spanUntil (stop : Char) : List PatternToken → Option (List Char × List PatternToken)
  | [] => none
  | token :: rest =>
    if token == .plain stop then some ([], rest)
    else do
      let (chars, rest) ← spanUntil stop rest
      return (token.chars ++ chars, rest)

/-- What follows a closing character; without one, only what is missing at the end stays. -/
def dropThrough (stop : Char) : List PatternToken → List PatternToken
  | [] => []
  | [.dangling] => [.dangling]
  | token :: rest => if token == .plain stop then rest else dropThrough stop rest

def ofDigits (base : Nat) (digits : List Nat) : Nat :=
  digits.foldl (fun value digit => value * base + digit) 0

end PatternToken

end Criteria
