import Criteria.Options.Basic
import Criteria.Value.Conversion

set_option autoImplicit false
set_option relaxedAutoImplicit false

/-!
# Validated options

Options are given as a mapping from their names, or as nothing at all. Their names, their defaults, the least
depth and what fallback data may be are declared here. To convert single settings, and to validate a mapping
against what is declared, is left to a library; `Validator.Lawful` is what is relied on.
-/

namespace Criteria

structure Conversions where
  toBool : Value → Except ProblemKind Bool
  toInteger : Value → Except ProblemKind Int
  toDictionary : Value → Except (List Problem) (List (String × Value))

/-- A library of validators: its conversions, and what it makes of a mapping of declared options. -/
structure Validator extends Conversions where
  validate : List (Value × Value) → Except (List Problem) Options

namespace Options

variable (conversions : Conversions)

def names : List String := ["data", "debug", "strict", "max_depth"]

/-- The least depth that can be asked for. -/
def leastDepth : Nat := 1

/-- Fallback data is nothing or a mapping, and a mere view of a mapping is copied. -/
def checkData (v : Value) : Except ProblemKind Value :=
  match v, v.untie with
  | .null, _ => .ok .null
  | _, .mapping .view entries => .ok (.plain entries)
  | v, .mapping _ _ => .ok v
  | _, _ => .error .dataNotMapping

def readField {α : Type} (name : String) (read : Value → Except ProblemKind α) (v : Value) :
    Except (List Problem) α :=
  (read v).mapError fun kind => [⟨[name], kind⟩]

/-- Read fallback data: it is checked before it is converted. -/
def readData (v : Value) : Except (List Problem) (Option (List (String × Value))) := do
  match ← readField "data" checkData v with
  | .null => return none
  | shown => return some (← conversions.toDictionary shown)

def readDepth (v : Value) : Except ProblemKind Nat := do
  let n ← conversions.toInteger v
  if n < leastDepth then .error (.belowLeast leastDepth) else return n.toNat

/-- A setting is given in a mapping and can be read, or it is not there and has its default. -/
def Given {α : Type} (entries : List (Value × Value)) (name : String) (default : α)
    (read : Value → Except (List Problem) α) (a : α) : Prop :=
  Value.lookup name entries = none ∧ a = default ∨ ∃ v, Value.lookup name entries = some v ∧ read v = .ok a

/-- Options are what a mapping says under their names, and under no other name does it say anything. -/
structure WrittenIn (o : Options) (entries : List (Value × Value)) : Prop where
  data : Given entries "data" none (readData conversions) o.data
  debug : Given entries "debug" false (readField "debug" conversions.toBool) o.debug
  strict : Given entries "strict" false (readField "strict" conversions.toBool) o.strict
  maxDepth : Given entries "max_depth" 64 (readField "max_depth" (readDepth conversions)) o.maxDepth
  named : ∀ e ∈ entries, ∃ name ∈ names, e.1 = .text name

/-- Take options as they are given: nothing stands for the defaults, and all else has to be a mapping. -/
def coerce (library : Validator) (v : Value) : Except Fault Options :=
  match v with
  | .null => .ok {}
  | v => do (library.validate (← v.toEntries)).mapError .options

def toEntries (o : Options) : List (Value × Value) := [
  (.text "data", o.fallback.getD .null), (.text "debug", .bool o.debug),
  (.text "strict", .bool o.strict), (.text "max_depth", .int o.maxDepth)]

/-- What comes of setting an option afterwards: options never change, and a hidden name is not theirs. -/
def assign (name : String) : Except Fault Unit :=
  if name.toList.head? == some '_' then .ok () else .error (.options [⟨[name], .frozen⟩])

end Options

/-- What a library of validators promises. A Boolean, an integer and a dictionary with texts for keys are
converted to themselves, and a dictionary has no key twice. A mapping is valid where each declared option
that it gives is converted and in range, and it gives no other; what it does not give has its default. -/
structure Validator.Lawful (library : Validator) : Prop where
  bool (b : Bool) : library.toBool (.bool b) = .ok b
  integer (n : Int) : library.toInteger (.int n) = .ok n
  dictionary {data : List (String × Value)} : (data.map Prod.fst).Nodup →
    library.toDictionary (Options.dataValue data) = .ok data
  keys {v : Value} {data : List (String × Value)} : library.toDictionary v = .ok data →
    (data.map Prod.fst).Nodup
  validate {entries : List (Value × Value)} {o : Options} :
    library.validate entries = .ok o ↔ o.WrittenIn library.toConversions entries

end Criteria
