import Criteria.Calendar.Date

set_option autoImplicit false
set_option relaxedAutoImplicit false

/-!
# What can go wrong

Every way in which an operation of the library fails to give an answer is a constructor of `Fault`,
and `Fault.message` is the one place that words it.
-/

namespace Criteria

inductive ProblemKind
  | unknownName
  | nameNotText
  | dataNotMapping
  | keyNotText
  | keyNotUnicode
  | belowLeast (least : Nat)
  | notInteger
  | notIntegerText
  | integerTextTooLong
  | fractionalInteger
  | notFinite
  | notBoolean
  | notBooleanText
  | frozen
  deriving DecidableEq, Repr

/-- A problem with an options mapping and the names and keys that lead to it. -/
structure Problem where
  location : List String
  kind : ProblemKind
  deriving DecidableEq, Repr

inductive LoadFault
  | invalidDocument
  | treeNotMapping (typeName : String)
  | setNotMapping
  | noRuleList
  | entryNotMapping (typeName : String)
  | missingId
  | rulesNotMapping (id : String)
  | duplicateId (id : String)
  deriving DecidableEq, Repr

inductive Fault
  | integerTooLarge
  | ratioTooLarge
  | infinityToInteger (decimal : Bool)
  | nanToInteger (decimal : Bool)
  | repetitionTooLarge
  | tooManyDigits (count : Nat)
  | integerText (base : Nat) (quoted : String)
  | floatText (quoted : String)
  | pairLength (index length : Nat)
  | conflictingFlags
  | codeTooLarge
  | codeNotCharacter
  | brokenAttribute (name : String)
  | noTruthValue
  | calendar (fault : CalendarFault)
  | unknownStrategy (name : String)
  | failure (text : String)
  | crash (text : String)
  | wrongType
  | missingAttribute
  | missingKey (quoted : String)
  | emptyText
  | incomparable
  | undecodable
  | options (problems : List Problem)
  | load (fault : LoadFault)
  deriving DecidableEq, Repr

def strategyNames : List String := ["first_match", "priority", "all_match"]

def ProblemKind.message : ProblemKind → String
  | .unknownName => "Extra inputs are not permitted"
  | .nameNotText => "Keys should be strings"
  | .dataNotMapping => "Value error, data must be a mapping of property names to values"
  | .keyNotText => "Input should be a valid string"
  | .keyNotUnicode => "Input should be a valid string, unable to parse raw data as a unicode string"
  | .belowLeast least => "Input should be greater than or equal to " ++ toString least
  | .notInteger => "Input should be a valid integer"
  | .notIntegerText => "Input should be a valid integer, unable to parse string as an integer"
  | .integerTextTooLong => "Unable to parse input string as an integer, exceeded maximum size"
  | .fractionalInteger => "Input should be a valid integer, got a number with a fractional part"
  | .notFinite => "Input should be a finite number"
  | .notBoolean => "Input should be a valid boolean"
  | .notBooleanText => "Input should be a valid boolean, unable to interpret input"
  | .frozen => "Instance is frozen"

private def spanText (seconds : Int) : String :=
  let days := seconds.fdiv 86400
  let rest := seconds.fmod 86400
  let parts := (if days == 0 then [] else ["days=" ++ toString days])
    ++ (if rest == 0 then [] else ["seconds=" ++ toString rest])
  "datetime.timedelta(" ++ (if parts.isEmpty then "0" else ", ".intercalate parts) ++ ")"

def offsetSpanText (seconds : Int) : String := spanText seconds

def CalendarFault.message : CalendarFault → String
  | .year given => "year " ++ toString given ++ " is out of range"
  | .month => "month must be in 1..12"
  | .day => "day is out of range for month"
  | .hour => "hour must be in 0..23"
  | .minute => "minute must be in 0..59"
  | .second => "second must be in 0..59"
  | .offset seconds =>
    "offset must be a timedelta strictly between -timedelta(hours=24) and timedelta(hours=24), not "
      ++ spanText seconds ++ "."

def LoadFault.message : LoadFault → String
  | .invalidDocument => "Invalid YAML"
  | .treeNotMapping typeName => "Rule tree must be a mapping, got " ++ typeName
  | .setNotMapping => "Rule-set document must be a mapping"
  | .noRuleList => "Rule-set document must contain a 'rules' list"
  | .entryNotMapping typeName => "Rule entry must be a mapping, got " ++ typeName
  | .missingId => "Rule entry is missing 'id'"
  | .rulesNotMapping id => "Rule '" ++ id ++ "' must define 'rules' as a mapping"
  | .duplicateId id => "Duplicate rule id: " ++ id

def digitLimit : Nat := 4300

/-- The wording of a fault; a problem list is worded problem by problem. -/
def Fault.message : Fault → String
  | .integerTooLarge => "int too large to convert to float"
  | .ratioTooLarge => "integer division result too large for a float"
  | .infinityToInteger decimal =>
    if decimal then "cannot convert Infinity to integer" else "cannot convert float infinity to integer"
  | .nanToInteger decimal =>
    if decimal then "cannot convert NaN to integer" else "cannot convert float NaN to integer"
  | .repetitionTooLarge => "the repetition number is too large"
  | .tooManyDigits count =>
    "Exceeds the limit (" ++ toString digitLimit ++ " digits) for integer string conversion: value has "
      ++ toString count ++ " digits; use sys.set_int_max_str_digits() to increase the limit"
  | .integerText base quoted =>
    "invalid literal for int() with base " ++ toString base ++ ": " ++ quoted
  | .floatText quoted => "could not convert string to float: " ++ quoted
  | .pairLength index length =>
    "dictionary update sequence element #" ++ toString index ++ " has length " ++ toString length
      ++ "; 2 is required"
  | .conflictingFlags => "ASCII and UNICODE flags are incompatible"
  | .codeTooLarge => "Python int too large to convert to C int"
  | .codeNotCharacter => "chr() arg not in range(0x110000)"
  | .brokenAttribute name => "attribute " ++ name ++ " is broken"
  | .noTruthValue => "no truth value"
  | .calendar fault => fault.message
  | .unknownStrategy name =>
    "Unknown match_strategy '" ++ name ++ "'. Expected one of: " ++ ", ".intercalate strategyNames
  | .failure text => text
  | .crash text => text
  | .wrongType => ""
  | .missingAttribute => ""
  | .missingKey quoted => quoted
  | .emptyText => "string index out of range"
  | .incomparable => "[<class 'decimal.InvalidOperation'>]"
  | .undecodable => ""
  | .options problems => "\n".intercalate (problems.map (·.kind.message))
  | .load fault => fault.message

def Fault.unwritable : Fault :=
  .failure ("Exceeds the limit (" ++ toString digitLimit
    ++ " digits) for integer string conversion; use sys.set_int_max_str_digits() to increase the limit")

end Criteria
