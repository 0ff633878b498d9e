import Criteria.Value.Basic

set_option autoImplicit false
set_option relaxedAutoImplicit false

/-!
# Values from linked parts

Values can be given as numbered parts, each an atom or a container whose items are links to parts. The
parts unfold to a value without links, unless a container can be reached from within itself; then they
are tied to a knot.
-/

namespace Criteria.Value

def isAtom : Value → Bool
  | .null | .bool _ | .number _ | .text _ | .bytes _ | .date _ | .dateTime _ => true
  | _ => false

def overItems {m : Type → Type} [Monad m] (f : Value → m Value) : Value → m Value
  | .array form items => return .array form (← items.mapM f)
  | .mapping form entries =>
    return .mapping form (← entries.mapM fun (key, value) => return (key, ← f value))
  | v => return v

/-- Unfold a part to a depth, if that depth suffices. -/
def unfolding? (parts : Array Value) : Nat → Nat → Option Value
  | 0, _ => none
  | depth + 1, place =>
    (parts.getD place .null).overItems fun
      | .link place => unfolding? parts depth place
      | v => some v

/-- The parts that do not unfold. No chain of containers is longer than the parts are many, so what does
not unfold to that depth has no end. -/
def endlessParts (parts : Array Value) : List Nat :=
  (List.range parts.size).filter fun place => (unfolding? parts parts.size place).isNone

def tie (parts : Array Value) (endless : List Nat) : Value → Value
  | .link place => (unfolding? parts parts.size place).getD (.link (endless.idxOf place))
  | v => v

def tiedPart (parts : Array Value) (endless : List Nat) (place : Nat) : Value :=
  Id.run ((parts.getD place .null).overItems fun item => pure (tie parts endless item))

def ofParts (parts : Array Value) (root : Nat) : Value :=
  match unfolding? parts parts.size root with
  | some v => v
  | none =>
    let endless := endlessParts parts
    .knot (endless.map (tiedPart parts endless)) (endless.idxOf root)

end Criteria.Value
