import Criteria.Options.Lenient
import Criteria.Options.Validation

set_option autoImplicit false
set_option relaxedAutoImplicit false

/-!
# Reading options

A library of validators that is lenient with what loses nothing. All problems of a mapping are reported
together: those of the declared options in their order, then those of the other names in the order of the
mapping.
-/

namespace Criteria

namespace Options

def keyLabel : Value → String
  | .text s => s
  | .bool b => if b then "1" else "0"
  | key => key.literal

/-- The text of a key of fallback data; bytes are taken for the text that they write. -/
def dataKey (key : Value) : Except Problem String :=
  let location := ["data", keyLabel key, "[key]"]
  match key with
  | .text s => .ok s
  | .bytes b =>
    match Text.ofUtf8? b with
    | some s => .ok s
    | none => .error ⟨location, .keyNotUnicode⟩
  | _ => .error ⟨location, .keyNotText⟩

/-- Enter a name and its value: an equal name keeps its place and takes the new value. -/
def enterName (entries : List (String × Value)) (name : String) (v : Value) : List (String × Value) :=
  if entries.any (·.1 == name) then entries.map fun e => if e.1 == name then (name, v) else e
  else entries ++ [(name, v)]

def dataProblems (entries : List (Value × Value)) : List Problem :=
  entries.filterMap fun (key, _) =>
    match dataKey key with
    | .error problem => some problem
    | .ok _ => none

def dataEntries (entries : List (Value × Value)) : List (String × Value) :=
  entries.foldl (fun kept (key, v) =>
    match dataKey key with
    | .ok name => enterName kept name v
    | .error _ => kept) []

def toDictionary (v : Value) : Except (List Problem) (List (String × Value)) :=
  match v.entries? with
  | some entries =>
    let problems := dataProblems entries
    if problems.isEmpty then .ok (dataEntries entries) else .error problems
  | none => .error [⟨["data"], .dataNotMapping⟩]

/-- The conversions that lose nothing. -/
def lenient : Conversions := ⟨Setting.toBool, Setting.toInteger, toDictionary⟩

def optional {α : Type} (entries : List (Value × Value)) (name : String) (default : α)
    (read : Value → Except (List Problem) α) : Except (List Problem) α :=
  match Value.lookup name entries with
  | some v => read v
  | none => .ok default

def keyProblem? (key : Value) : Option Problem :=
  match key with
  | .text name => if names.contains name then none else some ⟨[name], .unknownName⟩
  | _ => some ⟨[keyLabel key], .nameNotText⟩

def problemsOf {α : Type} : Except (List Problem) α → List Problem
  | .ok _ => []
  | .error problems => problems

def ofEntries (entries : List (Value × Value)) : Except (List Problem) Options :=
  let data := optional entries "data" none (readData lenient)
  let debug := optional entries "debug" false (readField "debug" lenient.toBool)
  let strict := optional entries "strict" false (readField "strict" lenient.toBool)
  let maxDepth := optional entries "max_depth" 64 (readField "max_depth" (readDepth lenient))
  match data, debug, strict, maxDepth, entries.filterMap (keyProblem? ·.1) with
  | .ok data, .ok debug, .ok strict, .ok maxDepth, [] => .ok { data, debug, strict, maxDepth }
  | data, debug, strict, maxDepth, others =>
    .error (problemsOf data ++ problemsOf debug ++ problemsOf strict ++ problemsOf maxDepth ++ others)

def library : Validator := { lenient with validate := ofEntries }

def ofValue : Value → Except Fault Options := coerce library

end Options

end Criteria
