import Criteria.RuleSet.Reader
import Criteria.Yaml.Graph
import Criteria.Yaml.GraphValue
import Criteria.Yaml.Tokens

set_option autoImplicit false
set_option relaxedAutoImplicit false

/-!
# Rules from documents

A text writes at most one document, and a text without one writes nothing. Bytes are text in UTF-8, in which
all line ends are one.
-/

namespace Criteria.Yaml

def read (text : String) : Except Fault Value := do
  unless text.toList.all isAllowed do throw (.load .invalidDocument)
  let (tokens, fault) := Token.ofText text
  match ← Graph.ofTokens tokens fault with
  | some graph => graph.value
  | none => return .null

def unifyLines : List Char → List Char
  | '\r' :: '\n' :: rest => '\n' :: unifyLines rest
  | '\r' :: rest => '\n' :: unifyLines rest
  | c :: rest => c :: unifyLines rest
  | [] => []

def textOfBytes (bytes : List UInt8) : Except Fault String :=
  match Text.ofUtf8? bytes with
  | some text => .ok (String.ofList (unifyLines text.toList))
  | none => .error .undecodable

/-- The reader of documents that are written in YAML. -/
def reader : DocumentReader := fun text =>
  (read text).mapError fun
    | .load .invalidDocument => .invalid
    | f => .other f

def loadRuleTree : String → Except Fault Value := reader.loadRuleTree

def loadRuleSet : String → Except Fault (List NamedRule) := reader.loadRuleSet

def loadRuleTreeBytes (bytes : List UInt8) : Except Fault Value := do
  loadRuleTree (← textOfBytes bytes)

def loadRuleSetBytes (bytes : List UInt8) : Except Fault (List NamedRule) := do
  loadRuleSet (← textOfBytes bytes)

end Criteria.Yaml
