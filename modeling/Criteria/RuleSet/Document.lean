import Criteria.RuleSet.NamedRule

set_option autoImplicit false
set_option relaxedAutoImplicit false

/-!
# Rule documents

A document holds a single rule tree, or a list of named rules under `rules`. An empty document is an
empty tree. The identifiers of named rules are told apart as texts.
-/

namespace Criteria

def ruleTree (document : Value) : Except Fault Value :=
  match document with
  | .null => .ok (.plain [])
  | _ =>
    if (NamedRule.ownEntries? document).isSome then .ok document
    else .error (.load (.treeNotMapping document.typeName))

namespace RuleSet

/-- The first identifier that has occurred before, given those that have. -/
def firstRepeated (seen : List String) : List NamedRule → Option String
  | [] => none
  | rule :: rest =>
    let id := rule.id.display
    if seen.contains id then some id else firstRepeated (id :: seen) rest

def ofEntries (entries : List Value) : Except Fault (List NamedRule) := do
  let rules ← entries.mapM NamedRule.ofValue
  match firstRepeated [] rules with
  | some id => .error (.load (.duplicateId id))
  | none => return rules

/-- The list of entries that a document holds; an empty document of any form is an empty mapping. -/
def entriesOf (document : Value) : Except Fault (List Value) :=
  let document := if document.truth then document else .plain []
  match NamedRule.ownEntries? document with
  | none => .error (.load .setNotMapping)
  | some entries =>
    match (Value.lookup "rules" entries).map Value.untie with
    | some (.array .list items) => .ok items
    | _ => .error (.load .noRuleList)

def ofDocument (document : Value) : Except Fault (List NamedRule) := do
  ofEntries (← entriesOf document)

end RuleSet

end Criteria
