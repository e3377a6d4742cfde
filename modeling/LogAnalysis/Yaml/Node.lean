import LogAnalysis.Yaml.Tag
import LogAnalysis.Yaml.Token

/-!
The tree of a YAML document.

An alias stands for a copy of the node with its anchor; inside that node it leads back to it. Every function takes its
tokens from the front of the list, so each step leaves fewer of them; the fuel is their number.
-/

namespace LogAnalysis.Yaml

inductive Node
  | scalar (tag : Tag) (text : String)
  | sequence (tag : Tag) (items : List Node)
  | mapping (tag : Tag) (pairs : List (Node × Node))
  | again (isMapping : Bool)
deriving Repr, Inhabited

namespace Node

def tag : Node → Tag
  | scalar tag _ => tag
  | sequence tag _ => tag
  | mapping tag _ => tag
  | again isMapping => if isMapping then .mapping else .sequence

def absent : Node := scalar (Tag.ofText "") ""

end Node

/-- What is known after a part of the tokens: the tokens that follow, what the handles of tags stand for, and the nodes
that have anchors; one that is not yet complete is the way back to it. -/
structure Composition where
  rest : List Token
  handles : List (String × String) := []
  anchors : List (String × Node) := []
deriving Inhabited

abbrev Composing := StateT Composition Reading

namespace Composing

def fail {α : Type} : Composing α := throw .malformed

def peek? : Composing (Option Token) := return (← get).rest.head?

def skip : Composing Unit := modify fun c => { c with rest := c.rest.drop 1 }

def nextIn (ts : List Token) : Composing Bool := return (← peek?).any ts.contains

def accept (t : Token) : Composing Bool := do
  if (← peek?) = some t then
    skip
    return true
  else return false

def expect (t : Token) : Composing Unit := do if !(← accept t) then fail

/-! ## Anchors and tags -/

def aliased (name : String) : Composing Node := do
  match (← get).anchors.lookup name with
  | some node => return node
  | none => fail

def openAnchor (name : Option String) : Composing Unit := do
  match name with
  | none => return
  | some name =>
    if ((← get).anchors.lookup name).isSome then fail
    let isSequence ← nextIn [.flowSequence, .blockSequence, .blockEntry]
    modify fun c => { c with anchors := (name, .again !isSequence) :: c.anchors }

def closeAnchor (name : Option String) (node : Node) : Composing Node := do
  match name with
  | none => return node
  | some name =>
    modify fun c => { c with anchors := (name, node) :: c.anchors }
    return node

def tagName (handle : Option String) (suffix : String) : Composing String := do
  match handle with
  | none => return suffix
  | some handle =>
    match (← get).handles.lookup handle with
    | some expansion => return expansion ++ suffix
    | none => fail

def takeAnchor : Composing (Option String) := do
  match ← peek? with
  | some (.anchor name) =>
    skip
    return some name
  | _ => return none

def takeTag : Composing (Option (Option String × String)) := do
  match ← peek? with
  | some (.tag handle suffix) =>
    skip
    return some (handle, suffix)
  | _ => return none

def properties : Composing (Option String × Option String) := do
  let first ← takeAnchor
  let tag ← takeTag
  let anchor ← if first.isNone && tag.isSome then takeAnchor else pure first
  match tag with
  | none => return (anchor, none)
  | some (handle, suffix) => return (anchor, some (← tagName handle suffix))

def scalarTag (name : Option String) (plain : Bool) (text : String) : Tag :=
  match name with
  | none => if plain then Tag.ofText text else .text
  | some "!" => Tag.ofText text
  | some name => Tag.ofName name

def collectionTag (usual : Tag) : Option String → Tag
  | none => usual
  | some "!" => usual
  | some name => Tag.ofName name

/-! ## Nodes -/

def emptyNode (anchor name : Option String) : Composing Node :=
  if anchor.isNone && name.isNone then fail else return .scalar (scalarTag name true "") ""

def nodeUnless (ends : List Token) (read : Composing Node) : Composing Node := do
  if ← nextIn ends then return Node.absent else read

def valueUnless (ends : List Token) (read : Composing Node) : Composing Node := do
  if ← accept .value then nodeUnless ends read else return Node.absent

mutual

/-- The node at a place. A collection without brackets may begin there only in a block, and one that is not indented only
behind a key. -/
def node (inBlock behindKey : Bool) : (fuel : Nat) → Composing Node
  | 0 => fail
  | fuel + 1 => do
    if let some (.alias name) ← peek? then
      skip
      return ← aliased name
    let (anchor, name) ← properties
    openAnchor anchor
    let n ← match ← peek? with
      | some .blockEntry =>
        if behindKey then
          let items ← levelItems fuel
          pure (Node.sequence (collectionTag .sequence name) items)
        else emptyNode anchor name
      | some (.scalar text plain) =>
        skip
        pure (Node.scalar (scalarTag name plain text) text)
      | some .flowSequence =>
        skip
        let items ← flowItems true fuel
        pure (Node.sequence (collectionTag .sequence name) items)
      | some .flowMapping =>
        skip
        let pairs ← flowPairs true fuel
        pure (Node.mapping (collectionTag .mapping name) pairs)
      | some .blockSequence =>
        if inBlock then
          skip
          let items ← blockItems fuel
          pure (Node.sequence (collectionTag .sequence name) items)
        else emptyNode anchor name
      | some .blockMapping =>
        if inBlock then
          skip
          let pairs ← blockPairs fuel
          pure (Node.mapping (collectionTag .mapping name) pairs)
        else emptyNode anchor name
      | _ => emptyNode anchor name
    closeAnchor anchor n

def blockItems : (fuel : Nat) → Composing (List Node)
  | 0 => fail
  | fuel + 1 => do
    if ← accept .blockEntry then
      let item ← nodeUnless [.blockEntry, .blockEnd] (node true false fuel)
      return item :: (← blockItems fuel)
    else
      expect .blockEnd
      return []

def levelItems : (fuel : Nat) → Composing (List Node)
  | 0 => fail
  | fuel + 1 => do
    if ← accept .blockEntry then
      let item ← nodeUnless [.blockEntry, .key, .value, .blockEnd] (node true false fuel)
      return item :: (← levelItems fuel)
    else return []

def blockPairs : (fuel : Nat) → Composing (List (Node × Node))
  | 0 => fail
  | fuel + 1 => do
    let ends := [Token.key, .value, .blockEnd]
    if ← accept .key then
      let key ← nodeUnless ends (node true true fuel)
      let value ← valueUnless ends (node true true fuel)
      return (key, value) :: (← blockPairs fuel)
    else
      expect .blockEnd
      return []

def flowItems (first : Bool) : (fuel : Nat) → Composing (List Node)
  | 0 => fail
  | fuel + 1 => do
    if ← accept .flowSequenceEnd then return []
    if !first then expect .flowEntry
    if ← accept .key then
      let key ← nodeUnless [.value, .flowEntry, .flowSequenceEnd] (node false false fuel)
      let value ← valueUnless [.flowEntry, .flowSequenceEnd] (node false false fuel)
      return .mapping .mapping [(key, value)] :: (← flowItems false fuel)
    else if ← accept .flowSequenceEnd then return []
    else
      let item ← node false false fuel
      return item :: (← flowItems false fuel)

def flowPairs (first : Bool) : (fuel : Nat) → Composing (List (Node × Node))
  | 0 => fail
  | fuel + 1 => do
    if ← accept .flowMappingEnd then return []
    if !first then expect .flowEntry
    if ← accept .key then
      let key ← nodeUnless [.value, .flowEntry, .flowMappingEnd] (node false false fuel)
      let value ← valueUnless [.flowEntry, .flowMappingEnd] (node false false fuel)
      return (key, value) :: (← flowPairs false fuel)
    else if ← accept .flowMappingEnd then return []
    else
      let key ← node false false fuel
      return (key, Node.absent) :: (← flowPairs false fuel)

end

/-! ## Documents -/

def directives : List Token → Reading (List Token × List (String × String) × Bool)
  | .version major :: rest => do
    let (rest, handles, versioned) ← directives rest
    if versioned || major ≠ 1 then throw .malformed
    return (rest, handles, true)
  | .tagHandle handle expansion :: rest => do
    let (rest, handles, versioned) ← directives rest
    if (handles.lookup handle).isSome then throw .malformed
    return (rest, (handle, expansion) :: handles, versioned)
  | .directive :: rest => directives rest
  | rest => .ok (rest, [], false)

def isDirective : Token → Bool
  | .version _ | .tagHandle .. | .directive => true
  | _ => false

def usualHandles : List (String × String) := [("!", "!"), ("!!", Tag.commonStart)]

def marked (fuel : Nat) : Composing Node := do
  let (rest, handles, _) ← liftM (directives (← get).rest)
  set { rest, handles := handles ++ usualHandles : Composition }
  expect .documentStart
  match ← peek? with
  | none | some .documentStart | some .documentEnd => return Node.absent
  | some t => if isDirective t then return Node.absent else node true false fuel

def document : Composing (Option Node) := do
  let fuel := (← get).rest.length + 1
  let n ← match ← peek? with
    | none => return none
    | some t =>
      if isDirective t || t = .documentStart then marked fuel
      else
        modify fun c => { c with handles := usualHandles }
        node true false fuel
  modify fun c => { c with rest := c.rest.dropWhile (· = .documentEnd) }
  if (← peek?).isSome then fail
  return some n

end Composing

def Node.ofText (text : String) : Reading (Option Node) := do
  let ts ← tokens (unifyBreaks text.toList)
  return (← Composing.document.run { rest := ts }).1

end LogAnalysis.Yaml
