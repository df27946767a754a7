import SwiftInterface.Value.SetOrder
import SwiftInterface.Yaml.Node
import SwiftInterface.Yaml.ScalarValue

/-!
# Constructing values of YAML nodes

Every node becomes a value, and only once, however often it is part of other
nodes.  The value of a collection exists before its contents: it starts empty
and waits in a queue, so collections are filled level by level and a
collection can hold itself.  The first problem met in this order is the one
that counts.

Mappings to be merged are spliced into the nodes just before the mapping that
merges them is filled.  They may merge further mappings, and the text of a
scalar may stand in further mappings as a default value; both are followed as
far as there is room.
-/

namespace SwiftInterface

namespace Yaml

/-- How a collection is filled. -/
inductive Filling where
  | list
  | pairs
  | mapping
  | set
deriving DecidableEq, Repr, Inhabited

namespace Filling

/-- How collections of a type are filled. -/
def ofTag? : Tag → Option Filling
  | .sequence => some list
  | .orderedMap => some pairs
  | .pairs => some pairs
  | .mapping => some mapping
  | .set => some set
  | _ => none

/-- The collection before it is filled. -/
def start : Filling → Collection
  | list => .list []
  | pairs => .list []
  | mapping => .mapping []
  | set => .set []

end Filling

/-- A collection that waits to be filled from a node. -/
structure Job where
  filling : Filling
  node : Nat
  place : Nat
deriving DecidableEq, Repr, Inhabited

/-- The state while values are constructed. -/
structure Construction where
  nodes : Nodes
  /-- The values constructed so far, by the place of their nodes. -/
  built : Array (Option Value)
  collections : Collections
  /-- The collections that wait to be filled, the latest first. -/
  waiting : List Job := []
deriving Inhabited

/-- A step that constructs values. -/
abbrev Construct := StateT Construction (Except Problem)

namespace Nodes

/-- The type of the node at a place. -/
def tagAt? (nodes : Nodes) (place : Nat) : Option Tag :=
  (nodes[place]?).map Node.tag

/-- The items of the node at a place, if it is a sequence. -/
def itemsAt? (nodes : Nodes) (place : Nat) : Option (List Nat) :=
  match nodes[place]? with
  | some ⟨_, .sequence items⟩ => some items
  | _ => none

/-- The entries of the node at a place, if it is a mapping. -/
def entriesAt? (nodes : Nodes) (place : Nat) : Option (List (Nat × Nat)) :=
  match nodes[place]? with
  | some ⟨_, .mapping entries⟩ => some entries
  | _ => none

/-- Whether the key of an entry has a type. -/
def hasKeyTag (nodes : Nodes) (tag : Tag) (entry : Nat × Nat) : Bool :=
  nodes.tagAt? entry.1 == some tag

/-- The number of entries that merge mappings. -/
def mergeCount (nodes : Nodes) : Nat :=
  nodes.foldl
    (fun count node =>
      match node.shape with
      | .mapping entries => count + entries.countP (nodes.hasKeyTag .merge)
      | _ => count)
    0

/-- The text of the scalar at a place.  A mapping stands for the text of its
default value.  `room` is the number of nodes on the way to the text. -/
def textAt (nodes : Nodes) : Nat → Nat → Except Problem String
  | 0, _ => .error (.fault (.tooDeep .calls))
  | room + 1, place =>
      match nodes[place]? with
      | some ⟨_, .scalar text⟩ => .ok text
      | some ⟨_, .mapping entries⟩ =>
          match entries.find? (nodes.hasKeyTag .default) with
          | some entry => textAt nodes room entry.2
          | none => .error .malformed
      | _ => .error .malformed

end Nodes

namespace Construct

/-- Give up. -/
def reject {α : Type} : Construct α :=
  throw .malformed

/-- The answer, or give up if there is none. -/
def require {α : Type} : Option α → Construct α
  | some answer => pure answer
  | none => reject

/-- The entries of the node at a place, which must be a mapping. -/
def entriesAt (place : Nat) : Construct (List (Nat × Nat)) := do
  require ((← get).nodes.entriesAt? place)

/-- The items of the node at a place, which must be a sequence. -/
def itemsAt (place : Nat) : Construct (List Nat) := do
  require ((← get).nodes.itemsAt? place)

/-- Replace the entries of the mapping at a place. -/
def setEntries (place : Nat) (entries : List (Nat × Nat)) :
    Construct Unit :=
  modify fun state =>
    { state with
      nodes := state.nodes.modify place
        fun node => { node with shape := .mapping entries } }

/-- Let the keys that mark default values be texts. -/
def retagDefaults (entries : List (Nat × Nat)) : Construct Unit :=
  modify fun state =>
    { state with
      nodes := entries.foldl
        (fun nodes entry =>
          if nodes.hasKeyTag .default entry then
            nodes.modify entry.1 fun node => { node with tag := .text }
          else nodes)
        state.nodes }

/-! ## Merged mappings -/

/-- The first entry that merges mappings, and the entries without it. -/
def splitMerge (nodes : Nodes) :
    List (Nat × Nat) → Option ((Nat × Nat) × List (Nat × Nat))
  | [] => none
  | entry :: rest =>
      if nodes.hasKeyTag .merge entry then some (entry, rest)
      else (splitMerge nodes rest).map
        fun (found, others) => (found, entry :: others)

/-- The room inside a mapping that is merged. -/
def enter : Nat → Construct Nat
  | 0 => throw (.fault (.tooDeep .calls))
  | room + 1 => pure room

/-- Splice merged mappings into the mapping at a place; `merged` holds the
entries found so far, which come first.  Of several mappings in a sequence
the last one comes first.  `room` is the number of mappings that may be merged
inside one another.  Every step takes a merging entry out of the nodes, so the
number of these entries is enough fuel. -/
def flatten (room : Nat) : Nat → Nat → List (Nat × Nat) → Construct Unit
  | 0, _, _ => reject
  | fuel + 1, place, merged => do
      let entries ← entriesAt place
      match splitMerge (← get).nodes entries with
      | none =>
          retagDefaults entries
          setEntries place (merged ++ entries)
      | some (entry, others) =>
          setEntries place others
          let flattened (part : Nat) : Construct (List (Nat × Nat)) := do
            let _ ← entriesAt part
            let inner ← enter room
            flatten inner fuel part []
            entriesAt part
          let added ←
            match (← get).nodes.itemsAt? entry.2 with
            | some items => do
                let parts ← items.mapM flattened
                pure parts.reverse.flatten
            | none => flattened entry.2
          flatten room fuel place (merged ++ added)

/-! ## Values -/

/-- The value of the scalar type of a node. -/
def scalarOf (place : Nat) (tag : Tag) : Construct Value := do
  let nodes := (← get).nodes
  let text ← nodes.textAt (← get).collections.machine.reach.links place
  if tag = .timestamp ∧ (nodes.entriesAt? place).isSome then
    throw (.fault .timeOfCollection)
  match scalarValue (place + 1) tag text with
  | .ok value => return value
  | .error problem => throw problem

/-- Start a collection that is filled later. -/
def startCollection (node : Nat) (filling : Filling) : Construct Value := do
  let state ← get
  let (value, collections) := state.collections.add filling.start
  let job : Job :=
    { filling, node, place := state.collections.places.size }
  set { state with collections, waiting := job :: state.waiting }
  return value

/-- Whether values of a type are built of texts. -/
def isScalarTag : Tag → Bool
  | .null | .bool | .int | .float | .binary | .timestamp | .text => true
  | _ => false

/-- The value of the node at a place. -/
def valueOf (place : Nat) : Construct Value := do
  let state ← get
  match state.built[place]? with
  | some (some value) => return value
  | _ =>
      let tag ← require (state.nodes.tagAt? place)
      let value ←
        match Filling.ofTag? tag with
        | some filling => startCollection place filling
        | none => if isScalarTag tag then scalarOf place tag else reject
      modify fun after =>
        { after with built := after.built.setIfInBounds place (some value) }
      return value

/-- Put a collection where it was started. -/
def finish (place : Nat) (filled : Collection) : Construct Unit :=
  modify fun state =>
    { state with
      collections :=
        { state.collections with
          places := state.collections.places.setIfInBounds place filled } }

/-- The values of an entry; the key must not be a collection. -/
def entryOf (entry : Nat × Nat) : Construct (Value × Value) := do
  let key ← valueOf entry.1
  if !key.isKey then reject
  let value ← valueOf entry.2
  return (key, value)

/-- The pair of a mapping with one entry. -/
def pairOf (place : Nat) : Construct Value := do
  match ← entriesAt place with
  | [entry] => do
      let first ← valueOf entry.1
      let second ← valueOf entry.2
      let state ← get
      let (pair, collections) := state.collections.add (.pair first second)
      set { state with collections }
      return pair
  | _ => reject

/-- The entries of a mapping after merging. -/
def mappingEntries (place : Nat) : Construct (List (Value × Value)) := do
  let _ ← entriesAt place
  let state ← get
  flatten state.collections.machine.reach.links (state.nodes.mergeCount + 1)
    place []
  let entries ← (← entriesAt place).mapM entryOf
  return Value.mappingOf entries

/-- Fill a collection. -/
def fill (job : Job) : Construct Unit := do
  match job.filling with
  | .list =>
      let values ← (← itemsAt job.node).mapM valueOf
      finish job.place (.list values)
  | .pairs =>
      let pairs ← (← itemsAt job.node).mapM pairOf
      finish job.place (.list pairs)
  | .mapping =>
      let entries ← mappingEntries job.node
      finish job.place (.mapping entries)
  | .set =>
      let entries ← mappingEntries job.node
      finish job.place (.set (Value.listed (entries.map Prod.fst)))

/-- Fill the waiting collections until none is left.  Every round fills the
collections of some nodes, so the number of nodes is enough fuel. -/
def fillAll : Nat → Construct Unit
  | 0 => reject
  | fuel + 1 => do
      let state ← get
      if state.waiting.isEmpty then return ()
      set { state with waiting := [] }
      state.waiting.reverse.forM fill
      fillAll fuel

end Construct

/-- The content of the document at a place. -/
def contentOf (machine : Machine) (nodes : Nodes) (root : Nat) :
    Except Problem Content := do
  let construct : Construct Value := do
    let value ← Construct.valueOf root
    Construct.fillAll (nodes.size + 2)
    return value
  let (value, state) ← construct.run
    { nodes, built := Array.replicate nodes.size none,
      collections := { machine } }
  return { collections := state.collections, root := value }

end Yaml

end SwiftInterface
