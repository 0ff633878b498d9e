import Criteria.Calendar.DateTime
import Criteria.Number.Basic
import Criteria.Pattern.Basic

set_option autoImplicit false
set_option relaxedAutoImplicit false

/-!
# Dynamic values

A `Value` is anything a rule can be asked about or written with. Containers hold values; a container
that holds itself is a `knot`: a list of containers whose entries may be links to one another, and
the index of the one meant. `untie` shows a knot as the container it is, with knots below it.
-/

namespace Criteria

inductive ArrayForm
  | list
  | tuple
  deriving DecidableEq, Repr

/-- The three forms of a mapping: the plain one, one whose order counts, and a view of another. -/
inductive MapForm
  | plain
  | ordered
  | view
  deriving DecidableEq, Repr

/-- A callable, known by its name: one supplied by the caller, or one that is always there. -/
inductive FunctionName
  | custom (name : String)
  | builtin (name : String)
  deriving DecidableEq, Repr

def FunctionName.conjugate : FunctionName := .builtin "complex.conjugate"

/-- Whether all callables of a name are one object. A method belongs to the value it was read from, and
that of another value is another object. -/
def FunctionName.isShared (f : FunctionName) : Bool := f != conjugate

inductive Value
  | undefined
  | null
  | bool (b : Bool)
  | number (n : Number)
  | text (s : String)
  | array (form : ArrayForm) (items : List Value)
  | mapping (form : MapForm) (entries : List (Value × Value))
  | set (frozen : Bool) (items : List Value)
  | bytes (b : List UInt8)
  | sized (length : Nat)
  | pattern (p : Pattern)
  | date (d : Date)
  | dateTime (t : DateTime)
  | error (name : String) (arguments : List Value)
  | function (f : FunctionName)
  | object (attributes : List (String × Value)) (broken : List String)
  | complex (re im : BinaryFloat)
  | knot (nodes : List Value) (root : Nat)
  | link (index : Nat)
  deriving Inhabited

namespace Value

def int (n : Int) : Value := .number (.int n)

def list (items : List Value) : Value := .array .list items

def plain (entries : List (Value × Value)) : Value := .mapping .plain entries

def within (nodes : List Value) : Value → Value
  | .link index => .knot nodes index
  | v => v

/-- Show a knot as the container that it is; any other value is shown as it is. -/
def untie : Value → Value
  | .knot nodes root =>
    match nodes[root]? with
    | some (.array form items) => .array form (items.map (within nodes))
    | some (.mapping form entries) => .mapping form (entries.map fun (k, v) => (k, within nodes v))
    | _ => .link root
  | v => v

theorem eq_of_untie {v shown : Value} (untied : v.untie = shown)
    (noArray : ∀ form items, shown ≠ .array form items)
    (noMapping : ∀ form entries, shown ≠ .mapping form entries)
    (noLink : ∀ index, shown ≠ .link index) : v = shown := by
  cases v with
  | knot nodes root =>
    rw [untie] at untied
    split at untied
    · exact absurd untied.symm (noArray _ _)
    · exact absurd untied.symm (noMapping _ _)
    · exact absurd untied.symm (noLink _)
  | _ => exact untied

def items? (v : Value) : Option (List Value) :=
  match v.untie with
  | .array _ items => some items
  | _ => none

def entries? (v : Value) : Option (List (Value × Value)) :=
  match v.untie with
  | .mapping _ entries => some entries
  | _ => none

def members? (v : Value) : Option (List Value) :=
  match v.untie with
  | .array _ items => some items
  | .set _ items => some items
  | _ => none

def isUndefined : Value → Bool
  | .undefined => true
  | _ => false

def isText : Value → Bool
  | .text _ => true
  | _ => false

def text? : Value → Option String
  | .text s => some s
  | _ => none

def lookup (key : String) : List (Value × Value) → Option Value
  | [] => none
  | (.text s, v) :: rest => if s == key then some v else lookup key rest
  | _ :: rest => lookup key rest

end Value

end Criteria
