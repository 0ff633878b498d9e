import Criteria.Text.Integer
import Criteria.Value.Text

set_option autoImplicit false
set_option relaxedAutoImplicit false

/-!
# Conversions between values

A value is converted to a Boolean by emptiness, to a text by its plain form, to an integer by its number
or its text, to a list by what it holds, and to a mapping by its entries or by the pairs that it lists.
-/

namespace Criteria

def Number.isOverlong : Number → Bool
  | .int n => Nat.pow 10 digitLimit ≤ n.natAbs
  | .fraction q => Nat.pow 10 digitLimit ≤ q.num.natAbs || Nat.pow 10 digitLimit ≤ q.den
  | _ => false

namespace Value

mutual

/-- Whether the text of a value has an integer of too many digits, given whether that of each link has. -/
def isOverlongWith : Value → (Nat → Bool) → Bool
  | .number n, _ => n.isOverlong
  | .array _ items, links => anyOverlong items links
  | .mapping _ entries, links => anyEntryOverlong entries links
  | .set _ items, links => anyOverlong items links
  | .error _ arguments, links => anyOverlong arguments links
  | .knot nodes root, _ =>
    unroll false (overlongTests nodes) [] (nodes.length + 1) [] root
  | .link index, links => links index
  | _, _ => false

def anyOverlong : List Value → (Nat → Bool) → Bool
  | [], _ => false
  | v :: rest, links => isOverlongWith v links || anyOverlong rest links

def anyEntryOverlong : List (Value × Value) → (Nat → Bool) → Bool
  | [], _ => false
  | (k, v) :: rest, links =>
    isOverlongWith k links || isOverlongWith v links || anyEntryOverlong rest links

def overlongTests : List Value → List ((Nat → Bool) → Bool)
  | [] => []
  | v :: rest => (fun links => isOverlongWith v links) :: overlongTests rest

end

/-- The plain form of a value, which it has unless an integer in it has too many digits. -/
def toText (v : Value) : Except Fault String :=
  if v.isOverlongWith fun _ => false then .error .unwritable else .ok v.display

/-- Whether a value is neither empty nor zero; what is not a number is neither. -/
def truth (v : Value) : Bool :=
  match v.untie with
  | .undefined | .null => false
  | .bool b => b
  | .number .unmeasured => true
  | .number n => !n.isZero
  | .text s => s != ""
  | .array _ items => !items.isEmpty
  | .mapping _ entries => !entries.isEmpty
  | .set _ items => !items.isEmpty
  | .bytes b => !b.isEmpty
  | .sized length => length > 0
  | .complex re im => !(re.isZero && im.isZero)
  | _ => true

def toInteger : Value → Except Fault Int
  | .bool b => .ok (if b then 1 else 0)
  | .number n => n.toInteger
  | .text s => Text.integerOf 10 s
  | .bytes b => Text.integerOfBytes b
  | _ => .error .wrongType

/-- What a value holds, in order: characters, bytes, items, keys or members. -/
def toItems (v : Value) : Except Fault (List Value) :=
  match v.untie with
  | .text s => .ok (s.toList.map fun c => .text (String.singleton c))
  | .bytes b => .ok (b.map fun byte => int byte.toNat)
  | .array _ items => .ok items
  | .mapping _ entries => .ok (entries.map Prod.fst)
  | .set _ items => .ok items
  | _ => .error .wrongType

mutual

def isHashable : Value → Bool
  | .array .list _ => false
  | .array .tuple items => allHashable items
  | .mapping .. => false
  | .set frozen _ => frozen
  | .number (.decimal d) => !d.isSignaling
  | .knot .. => false
  | _ => true

def allHashable : List Value → Bool
  | [] => true
  | v :: rest => isHashable v && allHashable rest

end

def enterPairs (entries : List (Value × Value)) :
    Nat → List Value → Except Fault (List (Value × Value))
  | _, [] => .ok entries
  | index, pair :: rest => do
    match ← pair.toItems with
    | [key, value] =>
      if key.isHashable then enterPairs (enter entries key value) (index + 1) rest
      else .error .wrongType
    | items => .error (.pairLength index items.length)

def toEntries (v : Value) : Except Fault (List (Value × Value)) :=
  match v.untie with
  | .mapping _ entries => .ok entries
  | .object _ broken =>
    if broken.contains "keys" then .error (.brokenAttribute "keys") else .error .wrongType
  | v => do enterPairs [] 0 (← v.toItems)

def toMembers (v : Value) : Except Fault (List Value) := do
  let items ← v.toItems
  if items.all isHashable then return distinct items else .error .wrongType

def toLength (v : Value) : Except Fault Nat :=
  match v.untie with
  | .sized length => .ok length
  | v => do return (← v.toItems).length

end Value

end Criteria
