import Criteria.Pattern.Basic
import Criteria.Text.Alphanumeric
import Criteria.Text.Blank
import Criteria.Text.Case
import Criteria.Text.Digit

set_option autoImplicit false
set_option relaxedAutoImplicit false

/-!
# What a pattern says

A `PatternNode` is a pattern as a tree. `PatternNode.width` bounds the number of characters that a
node can cover; only a node of one width can be looked for behind a place.
-/

namespace Criteria

inductive CharClass
  | digit
  | space
  | word
  deriving DecidableEq, Repr

inductive SetItem
  | point (p : Nat)
  | range (first last : Nat)
  | ofClass (c : CharClass) (negated : Bool)
  deriving DecidableEq, Repr

inductive Anchor
  | lineStart
  | lineStop
  | textStart
  | textStop
  | boundary
  | notBoundary
  deriving DecidableEq, Repr

/-- Which number of rounds a repetition tries first, and whether it tries another. -/
inductive Greed
  | greedy
  | lazy
  | possessive
  deriving DecidableEq, Repr

/-- Least and greatest number of characters; there may be no greatest. -/
structure Width where
  least : Nat
  most : Option Nat
  deriving DecidableEq, Repr

inductive PatternNode
  | empty
  | point (p : Nat)
  | any
  | oneOf (negated : Bool) (items : List SetItem)
  | anchor (a : Anchor)
  | both (first second : PatternNode)
  | either (first second : PatternNode)
  | capture (group : Nat) (body : PatternNode)
  | scoped (on off : PatternFlags) (unicode : Bool) (body : PatternNode)
  | repetition (greed : Greed) (least : Nat) (most : Option Nat) (body : PatternNode)
  | atomic (body : PatternNode)
  | ahead (negated : Bool) (body : PatternNode)
  | behind (negated : Bool) (width : Width) (body : PatternNode)
  | reference (group : Nat)
  | whether (group : Nat) (yes no : PatternNode)
  deriving Repr

namespace CharClass

/-- Whether a class holds a character; with the letters of ASCII alone where asked. -/
def contains (c : CharClass) (ascii : Bool) (x : Char) : Bool :=
  if ascii then
    match c with
    | .digit => x.isDigit
    | .space => x == ' ' || (9 ≤ x.toNat && x.toNat ≤ 13)
    | .word => x.isAlphanum || x == '_'
  else
    match c with
    | .digit => Text.isDecimalDigit x
    | .space => Text.isBlank x
    | .word => Text.isWordChar x

end CharClass

namespace Width

/-- The width of nothing. -/
def zero : Width := ⟨0, some 0⟩

def one : Width := ⟨1, some 1⟩

/-- The width of one thing after another. -/
def add (a b : Width) : Width :=
  ⟨a.least + b.least, do return (← a.most) + (← b.most)⟩

def either (a b : Width) : Width :=
  ⟨min a.least b.least, do return max (← a.most) (← b.most)⟩

def repeated (a : Width) (least : Nat) (most : Option Nat) : Width :=
  ⟨a.least * least, if a.most == some 0 then some 0 else do return (← a.most) * (← most)⟩

def farthest : Nat := 4294967295

def isFixed (a : Width) : Bool := a.most == some a.least && a.least ≤ farthest

end Width

namespace PatternNode

/-- One node after another. -/
def all : List PatternNode → PatternNode
  | [] => .empty
  | [node] => node
  | node :: rest => .both node (all rest)

def oneOfAll : List PatternNode → PatternNode
  | [] => .empty
  | [node] => node
  | node :: rest => .either node (oneOfAll rest)

def width (groups : Nat → Width) : PatternNode → Width
  | .empty => .zero
  | .point _ => .one
  | .any => .one
  | .oneOf _ _ => .one
  | .anchor _ => .zero
  | .both first second => (width groups first).add (width groups second)
  | .either first second => (width groups first).either (width groups second)
  | .capture _ body => width groups body
  | .scoped _ _ _ body => width groups body
  | .repetition _ least most body => (width groups body).repeated least most
  | .atomic body => width groups body
  | .ahead _ _ => .zero
  | .behind _ _ _ => .zero
  | .reference group => groups group
  | .whether _ yes no => (width groups yes).either (width groups no)

def looksBackFixed : PatternNode → Bool
  | .both first second => looksBackFixed first && looksBackFixed second
  | .either first second => looksBackFixed first && looksBackFixed second
  | .capture _ body => looksBackFixed body
  | .scoped _ _ _ body => looksBackFixed body
  | .repetition _ _ _ body => looksBackFixed body
  | .atomic body => looksBackFixed body
  | .ahead _ body => looksBackFixed body
  | .behind _ width body => width.isFixed && looksBackFixed body
  | .whether _ yes no => looksBackFixed yes && looksBackFixed no
  | _ => true

def repeats : PatternNode → Bool
  | .both first second => repeats first || repeats second
  | .either first second => repeats first || repeats second
  | .capture _ body => repeats body
  | .scoped _ _ _ body => repeats body
  | .repetition .. => true
  | .atomic body => repeats body
  | .ahead _ body => repeats body
  | .behind _ _ body => repeats body
  | .whether _ yes no => repeats yes || repeats no
  | _ => false

end PatternNode

end Criteria
