import Criteria.Pattern.Matching
import Criteria.Yaml.Node

set_option autoImplicit false
set_option relaxedAutoImplicit false

/-!
# What plain scalars are read as

A plain scalar without a tag is read by its form: the first form that it has decides, and without any
it is a text.
-/

namespace Criteria.Yaml

structure Form where
  node : PatternNode

namespace Form

def ofPattern (source : String) : Form :=
  match Pattern.read source.toList { verbose := true } with
  | .ok (node, _) => ⟨node⟩
  | .error _ => ⟨.ahead true .empty⟩

def cover? (form : Form) (text : String) : Option Spot :=
  form.node.run text.toList.toArray {} ⟨0, []⟩ some

def covers (form : Form) (text : String) : Bool := (form.cover? text).isSome

def bool : Form := ofPattern
  "^(?:yes|Yes|YES|no|No|NO|true|True|TRUE|false|False|FALSE|on|On|ON|off|Off|OFF)$"

def float : Form := ofPattern (
  "^(?:[-+]?(?:[0-9][0-9_]*)\\.[0-9_]*(?:[eE][-+][0-9]+)?"
    ++ "|\\.[0-9][0-9_]*(?:[eE][-+][0-9]+)?"
    ++ "|[-+]?[0-9][0-9_]*(?::[0-5]?[0-9])+\\.[0-9_]*"
    ++ "|[-+]?\\.(?:inf|Inf|INF)|\\.(?:nan|NaN|NAN))$")

def int : Form := ofPattern (
  "^(?:[-+]?0b[0-1_]+|[-+]?0[0-7_]+|[-+]?(?:0|[1-9][0-9_]*)|[-+]?0x[0-9a-fA-F_]+"
    ++ "|[-+]?[1-9][0-9_]*(?::[0-5]?[0-9])+)$")

def merge : Form := ofPattern "^(?:<<)$"

/-- The words for nothing. -/
def null : Form := ofPattern "^(?:~|null|Null|NULL|)$"

def timestamp : Form := ofPattern (
  "^(?:[0-9][0-9][0-9][0-9]-[0-9][0-9]-[0-9][0-9]"
    ++ "|[0-9][0-9][0-9][0-9]-[0-9][0-9]?-[0-9][0-9]?(?:[Tt]|[ \\t]+)[0-9][0-9]?"
    ++ ":[0-9][0-9]:[0-9][0-9](?:\\.[0-9]*)?"
    ++ "(?:[ \\t]*(?:Z|[-+][0-9][0-9]?(?::[0-9][0-9])?))?)$")

def standIn : Form := ofPattern "^(?:=)$"

def reserved : Form := ofPattern "^(?:!|&|\\*)$"

end Form

namespace Tag

/-- The forms of plain scalars: the characters with which each can begin, and its tag. -/
def forms : List (String × Form × Tag) := [
  ("yYnNtTfFoO", Form.bool, .bool),
  ("-+0123456789.", Form.float, .float),
  ("-+0123456789", Form.int, .int),
  ("<", Form.merge, .merge),
  ("~nN", Form.null, .null),
  ("0123456789", Form.timestamp, .timestamp),
  ("=", Form.standIn, .standIn),
  ("!&*", Form.reserved, .unknown)]

def ofPlain (text : String) : Tag :=
  match text.toList.head? with
  | none => .null
  | some c =>
    match forms.find? fun (firsts, form, _) => firsts.toList.contains c && form.covers text with
    | some (_, _, tag) => tag
    | none => .text

end Tag

end Criteria.Yaml
