set_option autoImplicit false
set_option relaxedAutoImplicit false

/-!
# Nodes of a document

A document is a graph: a node is a scalar, or a collection of other nodes named by their places in the
graph, so that one node can stand in several places, within itself too. Every node has a tag that says
what it is to be read as.
-/

namespace Criteria.Yaml

inductive Tag
  | null
  | bool
  | int
  | float
  | binary
  | timestamp
  | orderedPairs
  | pairs
  | set
  | text
  | sequence
  | mapping
  | merge
  | standIn
  | unknown
  deriving DecidableEq, Inhabited, Repr

inductive Node
  | scalar (tag : Tag) (text : String)
  | sequence (tag : Tag) (items : List Nat)
  | mapping (tag : Tag) (entries : List (Nat × Nat))
  deriving Inhabited, Repr

structure Graph where
  nodes : Array Node
  root : Nat
  root_lt : root < nodes.size

namespace Tag

def stem : String := "tag:yaml.org,2002:"

def known : List (String × Tag) := [
  ("null", .null), ("bool", .bool), ("int", .int), ("float", .float), ("binary", .binary),
  ("timestamp", .timestamp), ("omap", .orderedPairs), ("pairs", .pairs), ("set", .set),
  ("str", .text), ("seq", .sequence), ("map", .mapping), ("merge", .merge), ("value", .standIn)]

def ofName (name : String) : Tag :=
  ((known.find? fun (suffix, _) => stem ++ suffix == name).map Prod.snd).getD .unknown

end Tag

namespace Node

def tag : Node → Tag
  | .scalar tag _ => tag
  | .sequence tag _ => tag
  | .mapping tag _ => tag

end Node

end Criteria.Yaml
