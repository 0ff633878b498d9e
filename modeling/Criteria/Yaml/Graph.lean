import Criteria.Fault
import Criteria.Yaml.Form
import Criteria.Yaml.Token

set_option autoImplicit false
set_option relaxedAutoImplicit false

/-!
# The graph of a sequence of tokens

Tokens are read as the nodes of a single document. An anchor names a node from where it begins, an
alias stands for the node named before it, and a missing node is empty.
-/

namespace Criteria.Yaml

/-- What is known after some tokens have been read. -/
structure GraphReader where
  tokens : List Token
  fault : Option Fault
  handles : List (String × String) := []
  nodes : Array Node := #[]
  anchors : List (String × Nat) := []

abbrev GraphReading := StateT GraphReader (Except Fault)

namespace GraphReading

def refuse {α : Type} : GraphReading α := throw (.load .invalidDocument)

/-- The next token; after the last one, what kept the text from going on. -/
def peek : GraphReading Token := do
  let c ← get
  match c.tokens with
  | token :: _ => return token
  | [] => throw (c.fault.getD (.load .invalidDocument))

def skip : GraphReading Unit := modify fun c => { c with tokens := c.tokens.tail }

def accept (token : Token) : GraphReading Bool := do
  if (← peek) == token then
    skip
    return true
  return false

def expect (token : Token) : GraphReading Unit := do
  unless ← accept token do refuse

def sees (tokens : List Token) : GraphReading Bool := return tokens.contains (← peek)

def add (anchor : Option String) (node : Node) : GraphReading Nat := do
  let c ← get
  let place := c.nodes.size
  let anchors := match anchor with
    | some name => (name, place) :: c.anchors
    | none => c.anchors
  set { c with nodes := c.nodes.push node, anchors }
  return place

/-- The empty node. -/
def empty : GraphReading Nat := add none (.scalar .null "")

def close (place : Nat) (node : Node) : GraphReading Nat := do
  modify fun c => { c with nodes := c.nodes.setIfInBounds place node }
  return place

def aliased (name : String) : GraphReading Nat := do
  match (← get).anchors.lookup name with
  | some place => return place
  | none => refuse

def anchor? : GraphReading (Option String) := do
  match ← peek with
  | .anchor name =>
    skip
    return some name
  | _ => return none

def tag? : GraphReading (Option (Option String × String)) := do
  match ← peek with
  | .tag handle suffix =>
    skip
    return some (handle, suffix)
  | _ => return none

def properties : GraphReading (Option String × Option (Option String × String)) := do
  match ← anchor? with
  | some name => return (some name, ← tag?)
  | none =>
    match ← tag? with
    | some tag => return (← anchor?, some tag)
    | none => return (none, none)

def tagName : Option String × String → GraphReading String
  | (none, suffix) => return suffix
  | (some handle, suffix) => do
    match (← get).handles.lookup handle with
    | some stem => return stem ++ suffix
    | none => refuse

/-- A tag by its full name; the bare mark leaves the tag to the node. -/
def properTag (name : Option String) : Option Tag :=
  match name with
  | some name => if name == "!" then none else some (Tag.ofName name)
  | none => none

/-- The tag of a scalar; one that is plain or bears the bare mark is read by its form. -/
def scalarTag (name : Option String) (plain : Bool) (text : String) : Tag :=
  match properTag name with
  | some tag => tag
  | none => if plain || name.isSome then Tag.ofPlain text else .text

inductive Part
  | block (indentless : Bool)
  | flow

mutual

def node : Nat → Part → GraphReading Nat
  | 0, _ => refuse
  | fuel + 1, part => do
    match ← peek with
    | .alias name => do
      skip
      aliased name
    | _ => do
      let (anchor, tag) ← properties
      let name ← tag.mapM tagName
      let _ ← peek
      let taken := (← get).anchors
      if anchor.any fun name => (taken.lookup name).isSome then refuse
      content fuel part anchor name

def content : Nat → Part → Option String → Option String → GraphReading Nat
  | 0, _, _, _ => refuse
  | fuel + 1, part, anchor, name => do
    let sequenceTag := (properTag name).getD .sequence
    let mappingTag := (properTag name).getD .mapping
    match ← peek, part with
    | .blockEntry, .block true => do
      let place ← add anchor (.sequence sequenceTag [])
      let items ← indentlessItems fuel []
      close place (.sequence sequenceTag items)
    | .scalar text plain, _ => do
      skip
      add anchor (.scalar (scalarTag name plain text) text)
    | .flowSequenceStart, _ => do
      skip
      let place ← add anchor (.sequence sequenceTag [])
      let items ← flowItems fuel true []
      close place (.sequence sequenceTag items)
    | .flowMappingStart, _ => do
      skip
      let place ← add anchor (.mapping mappingTag [])
      let entries ← flowEntries fuel true []
      close place (.mapping mappingTag entries)
    | .blockSequenceStart, .block _ => do
      skip
      let place ← add anchor (.sequence sequenceTag [])
      let items ← blockItems fuel []
      close place (.sequence sequenceTag items)
    | .blockMappingStart, .block _ => do
      skip
      let place ← add anchor (.mapping mappingTag [])
      let entries ← blockEntries fuel []
      close place (.mapping mappingTag entries)
    | _, _ => do
      if anchor.isNone && name.isNone then refuse
      add anchor (.scalar (scalarTag name true "") "")

/-- Read a node, or the empty node where one of some tokens comes. -/
def nodeUnless : Nat → List Token → Part → GraphReading Nat
  | 0, _, _ => refuse
  | fuel + 1, stops, part => do if ← sees stops then empty else node fuel part

def blockItems : Nat → List Nat → GraphReading (List Nat)
  | 0, _ => refuse
  | fuel + 1, read => do
    if ← accept .blockEntry then
      let item ← nodeUnless fuel [.blockEntry, .blockEnd] (.block false)
      blockItems fuel (item :: read)
    else
      expect .blockEnd
      return read.reverse

def indentlessItems : Nat → List Nat → GraphReading (List Nat)
  | 0, _ => refuse
  | fuel + 1, read => do
    if ← accept .blockEntry then
      let item ← nodeUnless fuel [.blockEntry, .key, .value, .blockEnd] (.block false)
      indentlessItems fuel (item :: read)
    else return read.reverse

def blockEntries : Nat → List (Nat × Nat) → GraphReading (List (Nat × Nat))
  | 0, _ => refuse
  | fuel + 1, read => do
    if ← accept .key then
      let key ← nodeUnless fuel [.key, .value, .blockEnd] (.block true)
      let value ←
        if ← accept .value then nodeUnless fuel [.key, .value, .blockEnd] (.block true) else empty
      blockEntries fuel ((key, value) :: read)
    else
      expect .blockEnd
      return read.reverse

def flowItems : Nat → Bool → List Nat → GraphReading (List Nat)
  | 0, _, _ => refuse
  | fuel + 1, first, read => do
    if ← accept .flowSequenceEnd then return read.reverse
    unless first do expect .flowEntry
    if ← accept .key then
      let place ← add none (.mapping .mapping [])
      let stops := [Token.flowEntry, .flowSequenceEnd]
      let key ← nodeUnless fuel (.value :: stops) .flow
      let value ← if ← accept .value then nodeUnless fuel stops .flow else empty
      let item ← close place (.mapping .mapping [(key, value)])
      flowItems fuel false (item :: read)
    else if ← accept .flowSequenceEnd then return read.reverse
    else
      let item ← node fuel .flow
      flowItems fuel false (item :: read)

def flowEntries : Nat → Bool → List (Nat × Nat) → GraphReading (List (Nat × Nat))
  | 0, _, _ => refuse
  | fuel + 1, first, read => do
    if ← accept .flowMappingEnd then return read.reverse
    unless first do expect .flowEntry
    let stops := [Token.flowEntry, .flowMappingEnd]
    if ← accept .key then
      let key ← nodeUnless fuel (.value :: stops) .flow
      let value ← if ← accept .value then nodeUnless fuel stops .flow else empty
      flowEntries fuel false ((key, value) :: read)
    else if ← accept .flowMappingEnd then return read.reverse
    else
      let key ← node fuel .flow
      let value ← empty
      flowEntries fuel false ((key, value) :: read)

end

def commonHandles : List (String × String) := [("!", "!"), ("!!", Tag.stem)]

/-- Read the directives of a document: at most one version, and no handle twice. -/
def directives : Nat → Bool → List (String × String) → GraphReading (List (String × String))
  | 0, _, _ => refuse
  | fuel + 1, hasVersion, handles => do
    match ← peek with
    | .directive (.version major _) =>
      if hasVersion || major != 1 then refuse
      skip
      directives fuel true handles
    | .directive (.tagHandle handle stem) =>
      if (handles.lookup handle).isSome then refuse
      skip
      directives fuel hasVersion ((handle, stem) :: handles)
    | .directive .other =>
      skip
      directives fuel hasVersion handles
    | _ => return handles

def skipEnds : Nat → GraphReading Unit
  | 0 => refuse
  | fuel + 1 => do if ← accept .documentEnd then skipEnds fuel

def seesDirective : GraphReading Bool := do
  match ← peek with
  | .directive _ => return true
  | _ => return false

def root (fuel : Nat) : GraphReading (Option Nat) := do
  if (← peek) == .streamEnd then return none
  if (← seesDirective) || (← peek) == .documentStart then
    let handles ← directives fuel false []
    expect .documentStart
    modify fun c => { c with handles := handles ++ commonHandles }
    if (← seesDirective) || (← sees [.documentStart, .documentEnd, .streamEnd]) then
      return some (← empty)
  else modify fun c => { c with handles := commonHandles }
  return some (← node fuel (.block false))

def document (fuel : Nat) : GraphReading (Option Graph) := do
  let found ← root fuel
  skipEnds fuel
  expect .streamEnd
  let c ← get
  match found with
  | some root => if inside : root < c.nodes.size then return some ⟨c.nodes, root, inside⟩ else refuse
  | none => return none

end GraphReading

def Graph.ofTokens (tokens : List Token) (fault : Option Fault) : Except Fault (Option Graph) := do
  let fuel := 4 * tokens.length + 8
  let (graph, _) ← (GraphReading.document fuel).run { tokens, fault }
  return graph

end Criteria.Yaml
