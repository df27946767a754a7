import SwiftInterface.Yaml.Tag
import SwiftInterface.Yaml.Token

/-!
# Nodes of YAML

The tokens of a text form a graph of nodes, which stand in one array and name
each other by their places.  An alias stands for the place of its anchor, so a
node can be part of several others and even of itself.
-/

namespace SwiftInterface

namespace Yaml

/-- What a node is made of.  Other nodes are named by their places. -/
inductive Shape where
  | scalar (text : String)
  | sequence (items : List Nat)
  | mapping (entries : List (Nat × Nat))
deriving DecidableEq, Repr, Inhabited

/-- A node with its type. -/
structure Node where
  tag : Tag
  shape : Shape
deriving DecidableEq, Repr, Inhabited

/-- The nodes of a document by place. -/
abbrev Nodes := Array Node

/-- The state while nodes are built. -/
structure Builder where
  tokens : List Token
  nodes : Nodes := #[]
  /-- The places of the anchors met so far. -/
  anchors : List (String × Nat) := []
  /-- What the handles of tags stand for. -/
  handles : List (String × String)
deriving Inhabited

/-- A step that builds nodes. -/
abbrev Build := StateT Builder (Except Problem)

namespace Build

/-- Give up. -/
def reject {α : Type} : Build α :=
  throw .malformed

/-- The room inside a node. -/
def descend : Nat → Build Nat
  | 0 => throw (.fault (.tooDeep .calls))
  | room + 1 => pure room

/-- The next token; the text must be readable up to it. -/
def peek : Build Token := do
  match (← get).tokens with
  | [] => return .streamEnd
  | .problem problem :: _ => throw problem
  | token :: _ => return token

/-- Go over the next token. -/
def drop : Build Unit :=
  modify fun builder => { builder with tokens := builder.tokens.drop 1 }

/-- An anchor may be given only once. -/
def requireFresh (anchor : Option String) : Build Unit := do
  match anchor with
  | none => pure ()
  | some name =>
      if ((← get).anchors.lookup name).isSome then reject else pure ()

/-- Put a node at a new place and let its anchor stand for that place. -/
def place (anchor : Option String) (tag : Tag) (shape : Shape) :
    Build Nat := do
  requireFresh anchor
  let builder ← get
  let position := builder.nodes.size
  let anchors :=
    match anchor with
    | none => builder.anchors
    | some name => (name, position) :: builder.anchors
  set { builder with nodes := builder.nodes.push { tag, shape }, anchors }
  return position

/-- Put the node that stands for nothing at a new place. -/
def placeEmpty : Build Nat :=
  place none .null (.scalar "")

/-- Complete the node at a place, whose parts were built after it. -/
def complete (position : Nat) (shape : Shape) : Build Nat := do
  modify fun builder =>
    { builder with
      nodes := builder.nodes.modify position
        fun node => { node with shape } }
  return position

/-- The place of an alias. -/
def resolveAlias (name : String) : Build Nat := do
  match (← get).anchors.lookup name with
  | none => reject
  | some position => return position

/-- The full name of a tag. -/
def resolveTag (handle : Option String) (suffix : String) : Build String := do
  match handle with
  | none => return suffix
  | some handle =>
      match (← get).handles.lookup handle with
      | none => reject
      | some leader => return leader ++ suffix

/-- The anchor in front of a node, if there is one. -/
def anchor? : Build (Option String) := do
  match ← peek with
  | .anchor name =>
      drop
      return some name
  | _ => return none

/-- The tag in front of a node, if there is one. -/
def tag? : Build (Option (Option String × String)) := do
  match ← peek with
  | .tag handle suffix =>
      drop
      return some (handle, suffix)
  | _ => return none

/-- The anchor and the full tag name in front of a node, in either order. -/
def properties : Build (Option String × Option String) := do
  let early ← anchor?
  let tag ← tag?
  let anchor ←
    match early, tag with
    | none, some _ => anchor?
    | _, _ => pure early
  match tag with
  | none => return (anchor, none)
  | some (handle, suffix) =>
      let name ← resolveTag handle suffix
      return (anchor, some name)

end Build

/-- The type of a scalar with the given tag name. -/
def scalarTag (name : Option String) (text : String) (plain : Bool) : Tag :=
  match name with
  | none => if plain then tagOfForm text else .text
  | some "!" => tagOfForm text
  | some name => Tag.ofName name

/-- The type of a collection with the given tag name. -/
def collectionTag (name : Option String) (usual : Tag) : Tag :=
  match name with
  | none => usual
  | some "!" => usual
  | some name => Tag.ofName name

/-- Whether an entry of a block sequence without dash is missing here. -/
def endsIndentless : Token → Bool
  | .blockEntry | .key | .value | .blockEnd => true
  | _ => false

/-- Whether an entry of a block mapping is missing here. -/
def endsBlockEntry : Token → Bool
  | .key | .value | .blockEnd => true
  | _ => false

open Build

mutual

/-- Build a node and answer its place.  `block` allows blocks and `indentless`
a sequence that is not indented; `room` is the number of nodes that may be
built inside one another.  Fuel bounds the number of steps, of which every
token takes a few. -/
def buildNode (block indentless : Bool) (room : Nat) : Nat → Build Nat
  | 0 => reject
  | fuel + 1 => do
      let inner ← descend room
      match ← peek with
      | .alias name =>
          drop
          resolveAlias name
      | _ =>
          let (anchor, name) ← properties
          let token ← peek
          let sequenceStart :=
            place anchor (collectionTag name .sequence) (.sequence [])
          let mappingStart :=
            place anchor (collectionTag name .mapping) (.mapping [])
          if indentless && token == .blockEntry then
            let position ← sequenceStart
            let items ← buildIndentless inner fuel
            complete position (.sequence items)
          else if token == .flowSequenceStart then
            let position ← sequenceStart
            drop
            let items ← buildFlowItems true inner fuel
            complete position (.sequence items)
          else if token == .flowMappingStart then
            let position ← mappingStart
            drop
            let entries ← buildFlowEntries true inner fuel
            complete position (.mapping entries)
          else if block && token == .blockSequenceStart then
            let position ← sequenceStart
            drop
            let items ← buildBlockItems inner fuel
            complete position (.sequence items)
          else if block && token == .blockMappingStart then
            let position ← mappingStart
            drop
            let entries ← buildBlockEntries inner fuel
            complete position (.mapping entries)
          else
            match token with
            | .scalar text plain =>
                drop
                place anchor (scalarTag name text plain) (.scalar text)
            | _ =>
                if anchor.isNone && name.isNone then reject
                else place anchor (scalarTag name "" true) (.scalar "")
termination_by structural fuel => fuel

/-- Build the items of an indented block sequence. -/
def buildBlockItems (room : Nat) : Nat → Build (List Nat)
  | 0 => reject
  | fuel + 1 => do
      match ← peek with
      | .blockEntry =>
          drop
          let item ←
            match ← peek with
            | .blockEntry | .blockEnd => placeEmpty
            | _ => buildNode true false room fuel
          let others ← buildBlockItems room fuel
          return item :: others
      | .blockEnd =>
          drop
          return []
      | _ => reject
termination_by structural fuel => fuel

/-- Build the items of a block sequence that is not indented. -/
def buildIndentless (room : Nat) : Nat → Build (List Nat)
  | 0 => reject
  | fuel + 1 => do
      match ← peek with
      | .blockEntry =>
          drop
          let token ← peek
          let item ←
            if endsIndentless token then placeEmpty
            else buildNode true false room fuel
          let others ← buildIndentless room fuel
          return item :: others
      | _ => return []
termination_by structural fuel => fuel

/-- Build the entries of a block mapping. -/
def buildBlockEntries (room : Nat) : Nat → Build (List (Nat × Nat))
  | 0 => reject
  | fuel + 1 => do
      match ← peek with
      | .key =>
          drop
          let keyToken ← peek
          let key ←
            if endsBlockEntry keyToken then placeEmpty
            else buildNode true true room fuel
          let value ←
            match ← peek with
            | .value => do
                drop
                let valueToken ← peek
                if endsBlockEntry valueToken then placeEmpty
                else buildNode true true room fuel
            | _ => placeEmpty
          let others ← buildBlockEntries room fuel
          return (key, value) :: others
      | .blockEnd =>
          drop
          return []
      | _ => reject
termination_by structural fuel => fuel

/-- Build the items of a sequence in brackets. -/
def buildFlowItems (first : Bool) (room : Nat) : Nat → Build (List Nat)
  | 0 => reject
  | fuel + 1 => do
      match ← peek with
      | .flowSequenceEnd =>
          drop
          return []
      | token =>
          if !first then
            if token == .flowEntry then drop else reject
          match ← peek with
          | .flowSequenceEnd =>
              drop
              return []
          | .key =>
              drop
              let key ←
                match ← peek with
                | .value | .flowEntry | .flowSequenceEnd => placeEmpty
                | _ => buildNode false false room fuel
              let value ←
                match ← peek with
                | .value => do
                    drop
                    match ← peek with
                    | .flowEntry | .flowSequenceEnd => placeEmpty
                    | _ => buildNode false false room fuel
                | _ => placeEmpty
              let item ← place none .mapping (.mapping [(key, value)])
              let others ← buildFlowItems false room fuel
              return item :: others
          | _ =>
              let item ← buildNode false false room fuel
              let others ← buildFlowItems false room fuel
              return item :: others
termination_by structural fuel => fuel

/-- Build the entries of a mapping in braces. -/
def buildFlowEntries (first : Bool) (room : Nat) : Nat → Build (List (Nat × Nat))
  | 0 => reject
  | fuel + 1 => do
      match ← peek with
      | .flowMappingEnd =>
          drop
          return []
      | token =>
          if !first then
            if token == .flowEntry then drop else reject
          match ← peek with
          | .flowMappingEnd =>
              drop
              return []
          | .key =>
              drop
              let key ←
                match ← peek with
                | .value | .flowEntry | .flowMappingEnd => placeEmpty
                | _ => buildNode false false room fuel
              let value ←
                match ← peek with
                | .value => do
                    drop
                    match ← peek with
                    | .flowEntry | .flowMappingEnd => placeEmpty
                    | _ => buildNode false false room fuel
                | _ => placeEmpty
              let others ← buildFlowEntries false room fuel
              return (key, value) :: others
          | _ =>
              let key ← buildNode false false room fuel
              let value ← placeEmpty
              let others ← buildFlowEntries false room fuel
              return (key, value) :: others
termination_by structural fuel => fuel

end

/-! ## Documents -/

/-- The handles that every document has. -/
def usualHandles : List (String × String) :=
  [("!", "!"), ("!!", Tag.standardLeader)]

/-- The directives in front of a document: the version may be given once and
must be compatible, and every handle may be given once. -/
def buildDirectives (versioned : Bool) (handles : List (String × String)) :
    Nat → Build (List (String × String))
  | 0 => reject
  | fuel + 1 => do
      match ← peek with
      | .directive directive =>
          drop
          match directive with
          | .version major _ =>
              if versioned || major ≠ 1 then reject
              else buildDirectives true handles fuel
          | .tag handle leader =>
              if (handles.lookup handle).isSome then reject
              else buildDirectives versioned ((handle, leader) :: handles) fuel
          | .other => buildDirectives versioned handles fuel
      | _ => return handles

/-- Build the document after its start mark or without one. -/
def buildContent (room fuel : Nat) : Build Nat := do
  match ← peek with
  | .directive _ | .documentStart | .documentEnd | .streamEnd => placeEmpty
  | _ => buildNode true false room fuel

/-- Go over marks that end documents. -/
def dropDocumentEnds : Nat → Build Unit
  | 0 => reject
  | fuel + 1 => do
      match ← peek with
      | .documentEnd =>
          drop
          dropDocumentEnds fuel
      | _ => return ()

/-- Build the only document of a text; there may be none. -/
def buildStream (room fuel : Nat) : Build (Option Nat) := do
  let document ←
    match ← peek with
    | .streamEnd => pure none
    | .directive _ | .documentStart => do
        let given ← buildDirectives false [] fuel
        modify fun builder => { builder with handles := given ++ usualHandles }
        match ← peek with
        | .documentStart => do
            drop
            let root ← buildContent room fuel
            pure (some root)
        | _ => reject
    | _ => do
        let root ← buildNode true false room fuel
        pure (some root)
  dropDocumentEnds fuel
  match ← peek with
  | .streamEnd => return document
  | _ =>
      let _ ← buildDirectives false [] fuel
      reject

/-- The nodes of a text and the place of its document, if it has one. -/
def nodesOf (machine : Machine) (chars : List Char) :
    Except Problem (Option Nat × Nodes) := do
  let tokens := tokensOf machine.halves chars
  let (root, builder) ←
    (buildStream machine.reach.yaml (4 * tokens.length + 4)).run
      { tokens, handles := usualHandles }
  return (root, builder.nodes)

end Yaml

end SwiftInterface
