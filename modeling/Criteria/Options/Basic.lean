import Criteria.Value.Equality

set_option autoImplicit false
set_option relaxedAutoImplicit false

/-!
# Options of an evaluation

Fallback data for paths that a value lacks, whether every rule is reported as it is judged, whether an
unknown rule fails, and how deep rules may nest.
-/

namespace Criteria

structure Options where
  data : Option (List (String × Value)) := none
  debug : Bool := false
  strict : Bool := false
  maxDepth : Nat := 64
  deriving Inhabited

namespace Options

def dataValue (entries : List (String × Value)) : Value :=
  .plain (entries.map fun (key, v) => (.text key, v))

def fallback (o : Options) : Option Value := o.data.map dataValue

def sameData : Option Value → Option Value → Bool
  | none, none => true
  | some a, some b => a.same b
  | _, _ => false

def same (a b : Options) : Bool :=
  sameData a.fallback b.fallback && a.debug == b.debug && a.strict == b.strict
    && a.maxDepth == b.maxDepth

end Options

end Criteria
