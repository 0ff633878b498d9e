import Criteria.Value.Conversion

set_option autoImplicit false
set_option relaxedAutoImplicit false

/-!
# Named rules

A named rule is a rule with an identifier, a priority, a description and tags. Read from an entry of a
rule set, its identifier is a text, its priority an integer and its tags a list; supplied directly, its
parts are whatever they are.
-/

namespace Criteria

structure NamedRule where
  id : Value
  rules : Value
  priority : Value := .int 0
  description : Value := .text ""
  tags : Value := .list []

namespace NamedRule

def ownEntries? (v : Value) : Option (List (Value × Value)) :=
  match v.untie with
  | .mapping .view _ => none
  | .mapping _ entries => some entries
  | _ => none

/-- The rules of an entry; without any, the empty tree. -/
def readRules (id : Value) (entries : List (Value × Value)) : Except Fault Value :=
  let rules := (Value.lookup "rules" entries).getD (.plain [])
  if (ownEntries? rules).isSome then .ok rules
  else do .error (.load (.rulesNotMapping (← id.toText)))

def readPriority (entries : List (Value × Value)) : Except Fault Int :=
  match Value.lookup "priority" entries with
  | some v => v.toInteger
  | none => .ok 0

def readTags (entries : List (Value × Value)) : Except Fault (List Value) :=
  match Value.lookup "tags" entries with
  | some v => v.toItems
  | none => .ok []

def ofValue (v : Value) : Except Fault NamedRule :=
  match ownEntries? v with
  | none => .error (.load (.entryNotMapping v.typeName))
  | some entries =>
    match Value.lookup "id" entries with
    | none => .error (.load .missingId)
    | some id => do
      let rules ← readRules id entries
      let id ← id.toText
      let priority ← readPriority entries
      let tags ← readTags entries
      return {
        id := .text id
        rules
        priority := .int priority
        description := (Value.lookup "description" entries).getD (.text "")
        tags := .list tags }

def toValue (r : NamedRule) : Value := .plain [
  (.text "id", r.id), (.text "rules", r.rules), (.text "priority", r.priority),
  (.text "description", r.description), (.text "tags", r.tags)]

end NamedRule

end Criteria
