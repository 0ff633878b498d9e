import Criteria.Value.Conversion
import Criteria.Value.Knot
import Criteria.Yaml.Scalar

set_option autoImplicit false
set_option relaxedAutoImplicit false

/-!
# The value of a graph

The nodes of a graph are read level by level: a scalar is read where it is met, and the items of a
collection wait until the collections met before have been read. So of several faults the one nearest
to the root is found. Mappings that are merged into another one come before its own entries.
-/

namespace Criteria.Yaml

/-- What is known of a graph: its nodes, the parts of the value read so far, and the collections that
wait, the latest first. -/
structure Builder where
  nodes : Array Node
  parts : Array (Option Value)
  waiting : List Nat := []

abbrev Building := StateT Builder (Except Fault)

namespace Building

def refuse {α : Type} : Building α := throw (.load .invalidDocument)

def node (place : Nat) : Building Node := return (← get).nodes.getD place default

def setNode (place : Nat) (node : Node) : Building Unit :=
  modify fun b => { b with nodes := b.nodes.setIfInBounds place node }

def part? (place : Nat) : Building (Option Value) := return ((← get).parts[place]?).join

def setPart (place : Nat) (part : Value) : Building Unit :=
  modify fun b => { b with parts := b.parts.setIfInBounds place (some part) }

def addPart (part : Value) : Building Nat := do
  let place := (← get).parts.size
  modify fun b => { b with parts := b.parts.push (some part) }
  return place

/-- The text of a scalar; for a mapping it is the text that its stand-in gives. -/
def scalarText : Nat → Nat → Building String
  | 0, _ => refuse
  | fuel + 1, place => do
    match ← node place with
    | .scalar _ text => return text
    | .sequence .. => refuse
    | .mapping _ entries =>
      let nodes := (← get).nodes
      match entries.find? fun (key, _) => (nodes.getD key default).tag == .standIn with
      | some (_, value) => scalarText fuel value
      | none => refuse

def entries (place : Nat) : Building (List (Nat × Nat)) := do
  match ← node place with
  | .mapping _ entries => return entries
  | _ => refuse

def setEntries (place : Nat) (entries : List (Nat × Nat)) : Building Unit := do
  setNode place (.mapping (← node place).tag entries)

/-- Take the first entry that merges out of a mapping, and give what it merges. -/
def takeMerge (place : Nat) : Building (Option Nat) := do
  let all ← entries place
  let nodes := (← get).nodes
  match all.findIdx? fun (key, _) => (nodes.getD key default).tag == .merge with
  | some index =>
    setEntries place (all.eraseIdx index)
    return (all[index]?).map Prod.snd
  | none => return none

def keepStandIn (key : Nat) : Building Unit := do
  match ← node key with
  | .scalar .standIn text => setNode key (.scalar .text text)
  | .sequence .standIn items => setNode key (.sequence .text items)
  | .mapping .standIn items => setNode key (.mapping .text items)
  | _ => return

def mergeSources (place : Nat) : Building (List Nat) := do
  match ← node place with
  | .mapping .. => return [place]
  | .sequence _ items => return items
  | .scalar .. => refuse

/-- Merge mappings into the one at a place, and give its entries then. The entries of later sources
come first, so that those of earlier ones prevail. Each round takes an entry that merges out of some
mapping, so their number bounds the rounds. -/
def flatten : Nat → Nat → Building (List (Nat × Nat))
  | 0, _ => refuse
  | fuel + 1, place => do
    match ← takeMerge place with
    | some source =>
      let merged ← (← mergeSources source).mapM (flatten fuel)
      let own ← flatten fuel place
      setEntries place (merged.reverse.flatten ++ own)
    | none => (← entries place).forM fun (key, _) => keepStandIn key
    entries place

def entryCount (nodes : Array Node) : Nat :=
  nodes.foldl (fun count node => match node with
    | .mapping _ entries => count + entries.length
    | _ => count) 0

def flattened (place : Nat) : Building (List (Nat × Nat)) := do
  flatten (entryCount (← get).nodes + 1) place

/-- Read the node at a place if it is a scalar; a collection has to wait. -/
def meet (place : Nat) : Building Unit := do
  if (← part? place).isSome then return
  let node ← node place
  match node.tag with
  | .sequence | .mapping | .set | .orderedPairs | .pairs =>
    setPart place (.list [])
    modify fun b => { b with waiting := place :: b.waiting }
  | tag =>
    match tag.reader? with
    | none => refuse
    | some read =>
      let text ← scalarText ((← get).nodes.size + 1) place
      match tag, node with
      | .timestamp, .mapping .. => throw .wrongType
      | _, _ => setPart place (← read text)

/-- Read a key, which has to be an atom. -/
def key (place : Nat) : Building Value := do
  meet place
  match ← part? place with
  | some part => if part.isAtom then return part else refuse
  | none => refuse

/-- Whether two keys are the same; what is not a number is the same as itself. -/
def sameKey : Value → Value → Bool
  | .number (.float .nan), .number (.float .nan) => true
  | a, b => Value.same a b

def entriesFrom (read : List (Value × Value)) :
    List (Nat × Nat) → Building (List (Value × Value))
  | [] => return read
  | (k, v) :: rest => do
    let key ← key k
    meet v
    entriesFrom (Value.enterBy sameKey read key (.link v)) rest

def pair (place : Nat) : Building Value := do
  match ← node place with
  | .mapping _ [(key, value)] =>
    meet key
    meet value
    return .link (← addPart (.array .tuple [.link key, .link value]))
  | _ => refuse

def fill (place : Nat) : Building Unit := do
  let node ← node place
  match node.tag, node with
  | .sequence, .sequence _ items =>
    items.forM meet
    setPart place (.list (items.map .link))
  | .mapping, .mapping .. => setPart place (.plain (← entriesFrom [] (← flattened place)))
  | .set, .mapping .. =>
    let read ← entriesFrom [] (← flattened place)
    setPart place (.set false (read.map Prod.fst))
  | .orderedPairs, .sequence _ items => setPart place (.list (← items.mapM pair))
  | .pairs, .sequence _ items => setPart place (.list (← items.mapM pair))
  | _, _ => refuse

/-- Read the collections that wait, level by level. Each level but the last holds a node that had not
been met, so the number of nodes bounds the levels. -/
def levels : Nat → Building Unit
  | 0 => refuse
  | fuel + 1 => do
    let waiting := (← get).waiting
    if waiting.isEmpty then return
    modify fun b => { b with waiting := [] }
    waiting.reverse.forM fill
    levels fuel

end Building

def Graph.value (g : Graph) : Except Fault Value := do
  let start : Builder := ⟨g.nodes, g.nodes.map fun _ => none, []⟩
  let build : Building Unit := do
    Building.meet g.root
    Building.levels (g.nodes.size + 1)
  let ((), b) ← build.run start
  return .ofParts (b.parts.map fun part => part.getD .null) g.root

end Criteria.Yaml
