import Criteria.Number.Shortest
import Criteria.Text.Quoted
import Criteria.Value.Ordering

set_option autoImplicit false
set_option relaxedAutoImplicit false

/-!
# The text of values

`Value.literal` is the written form that shows what a value is; `Value.display` is the plain form, in
which a text stands for itself. A container inside itself is shown by empty brackets with dots.
-/

namespace Criteria

def PatternFlags.names (f : PatternFlags) : List String :=
  [(f.ignoreCase, "re.IGNORECASE"), (f.multiline, "re.MULTILINE"), (f.dotAll, "re.DOTALL"),
    (f.verbose, "re.VERBOSE"), (f.ascii, "re.ASCII")]
    |>.filterMap fun (isSet, name) => if isSet then some name else none

def PatternSource.quoted : PatternSource → String
  | .text s => Text.quoted s
  | .bytes b => Text.quotedBytes b

/-- The written form of a pattern; a long source is cut. -/
def Pattern.literal (p : Pattern) : String :=
  let names := p.flags.names
  "re.compile(" ++ Text.clipped 200 p.source.quoted
    ++ (if names.isEmpty then "" else ", " ++ "|".intercalate names) ++ ")"

def Date.literal (d : Date) : String :=
  "datetime.date(" ++ ", ".intercalate [toString d.year, toString d.month, toString d.day] ++ ")"

def offsetLiteral (offset : Int) : String :=
  if offset == 0 then "datetime.timezone.utc"
  else "datetime.timezone(" ++ offsetSpanText offset ++ ")"

/-- The written form of a time: seconds, microseconds and offset only where there are any. -/
def DateTime.literal (t : DateTime) : String :=
  let always := [t.date.year, t.date.month, t.date.day, t.hour, t.minute]
  let fine :=
    if t.micro != 0 then [t.second, t.micro] else if t.second != 0 then [t.second] else []
  let fields := (always ++ fine).map fun (n : Nat) => toString n
  let zone := match t.offset with
    | none => []
    | some offset => ["tzinfo=" ++ offsetLiteral offset]
  "datetime.datetime(" ++ ", ".intercalate (fields ++ zone) ++ ")"

/-- The text of a complex number: a zero real part with no sign is left out. -/
def complexText (re im : BinaryFloat) : String :=
  if re.isZero && !re.isNegative then BinaryFloat.partStyle.text im ++ "j"
  else "(" ++ BinaryFloat.partStyle.text re ++ BinaryFloat.partStyle.signedText im ++ "j)"

/-- The built-in callables that are types rather than functions. -/
def builtinTypes : List String := ["bool", "int", "str", "list", "dict", "set", "object"]

/-- The written form of a callable. The address of the number that a method belongs to is left out. -/
def FunctionName.literal : FunctionName → String
  | .custom name => "<fn " ++ name ++ ">"
  | .builtin name =>
    if name == "complex.conjugate" then "<built-in method conjugate of complex object>"
    else if builtinTypes.contains name then "<class '" ++ name ++ "'>"
    else if name == "date" then "<class 'datetime.date'>"
    else "<built-in function " ++ name ++ ">"

/-- The text of a fraction: a whole one has no denominator. -/
def fractionText (q : Rat) : String :=
  if q.den == 1 then toString q.num else toString q.num ++ "/" ++ toString q.den

def Number.literal : Number → String
  | .int n => toString n
  | .float x => BinaryFloat.plainStyle.text x
  | .decimal d => "Decimal('" ++ d.text ++ "')"
  | .fraction q => "Fraction(" ++ toString q.num ++ ", " ++ toString q.den ++ ")"
  | .unmeasured => "<BadReal>"

def Number.display : Number → String
  | .decimal d => d.text
  | .fraction q => fractionText q
  | n => n.literal

/-- Items between brackets; a tuple of one item keeps a comma. -/
def bracketed (form : ArrayForm) (items : List String) : String :=
  match form, items with
  | .list, _ => "[" ++ ", ".intercalate items ++ "]"
  | .tuple, [item] => "(" ++ item ++ ",)"
  | .tuple, _ => "(" ++ ", ".intercalate items ++ ")"

def braced (items : List String) : String := "\x7b" ++ ", ".intercalate items ++ "\x7d"

def setLiteral (frozen : Bool) (items : List String) : String :=
  match frozen, items with
  | false, [] => "set()"
  | false, _ => braced items
  | true, [] => "frozenset()"
  | true, _ => "frozenset(" ++ braced items ++ ")"

def mappingLiteral (form : MapForm) (entries : List (String × String)) : String :=
  match form with
  | .plain => braced (entries.map fun (k, v) => k ++ ": " ++ v)
  | .view => "mappingproxy(" ++ braced (entries.map fun (k, v) => k ++ ": " ++ v) ++ ")"
  | .ordered =>
    if entries.isEmpty then "OrderedDict()"
    else "OrderedDict([" ++ ", ".intercalate (entries.map fun (k, v) => "(" ++ k ++ ", " ++ v ++ ")")
      ++ "])"

def errorLiteral (name : String) (arguments : List String) : String :=
  name ++ "(" ++ ", ".intercalate arguments ++ ")"

def dottedBrackets : Value → String
  | .array .list _ => "[...]"
  | .array .tuple _ => "(...)"
  | _ => "\x7b...\x7d"

/-- What comes of a node of a knot, given what each node makes of what comes of its links, and what comes
of a node that is met again inside itself. -/
def unroll {α : Type} (none_ : α) (nodes : List ((Nat → α) → α)) (again : List α) :
    Nat → List Nat → Nat → α
  | 0, _, _ => none_
  | steps + 1, open_, index =>
    if open_.contains index then again.getD index none_
    else
      match nodes[index]? with
      | some node => node (unroll none_ nodes again steps (index :: open_))
      | none => none_

namespace Value

mutual

def literalWith : Value → (Nat → String) → String
  | .undefined, _ => "UNDEFINED"
  | .null, _ => "None"
  | .bool b, _ => if b then "True" else "False"
  | .number n, _ => n.literal
  | .text s, _ => Text.quoted s
  | .array form items, links => bracketed form (itemLiterals items links)
  | .mapping form entries, links => mappingLiteral form (entryLiterals entries links)
  | .set frozen items, links => setLiteral frozen (itemLiterals items links)
  | .bytes b, _ => Text.quotedBytes b
  | .sized _, _ => "<Sized>"
  | .pattern p, _ => p.literal
  | .date d, _ => d.literal
  | .dateTime t, _ => t.literal
  | .error name arguments, links => errorLiteral name (itemLiterals arguments links)
  | .function f, _ => f.literal
  | .object .., _ => "<Obj>"
  | .complex re im, _ => complexText re im
  | .knot nodes root, _ =>
    unroll "" (writers nodes) (nodes.map dottedBrackets) (nodes.length + 1) [] root
  | .link index, links => links index

def itemLiterals : List Value → (Nat → String) → List String
  | [], _ => []
  | v :: rest, links => literalWith v links :: itemLiterals rest links

def entryLiterals : List (Value × Value) → (Nat → String) → List (String × String)
  | [], _ => []
  | (k, v) :: rest, links => (literalWith k links, literalWith v links) :: entryLiterals rest links

def writers : List Value → List ((Nat → String) → String)
  | [] => []
  | v :: rest => (fun links => literalWith v links) :: writers rest

end

def literal (v : Value) : String := v.literalWith fun _ => ""

def display : Value → String
  | .text s => s
  | .number n => n.display
  | .date d => d.text
  | .dateTime t => t.text " "
  | .error name [argument] => if name == "KeyError" then argument.literal else display argument
  | .error _ [] => ""
  | .error _ arguments => bracketed .tuple (arguments.map literal)
  | .mapping .view entries => (plain entries).literal
  | v => v.literal

def typeName (v : Value) : String :=
  match v.untie with
  | .undefined => "_Undefined"
  | .null => "NoneType"
  | .bool _ => "bool"
  | .number (.int _) => "int"
  | .number (.float _) => "float"
  | .number (.decimal _) => "Decimal"
  | .number (.fraction _) => "Fraction"
  | .number .unmeasured => "BadReal"
  | .text _ => "str"
  | .array .list _ => "list"
  | .array .tuple _ => "tuple"
  | .mapping .plain _ => "dict"
  | .mapping .ordered _ => "OrderedDict"
  | .mapping .view _ => "mappingproxy"
  | .set frozen _ => if frozen then "frozenset" else "set"
  | .bytes _ => "bytes"
  | .sized _ => "Sized"
  | .pattern _ => "Pattern"
  | .date _ => "date"
  | .dateTime _ => "datetime"
  | .error name _ => name
  | .function (.custom _) => "function"
  | .function (.builtin name) =>
    if builtinTypes.contains name || name == "date" then "type" else "builtin_function_or_method"
  | .object .. => "Obj"
  | .complex .. => "complex"
  | .knot .. => "dict"
  | .link _ => "dict"

end Value

end Criteria
