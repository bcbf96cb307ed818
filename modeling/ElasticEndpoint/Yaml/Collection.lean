import ElasticEndpoint.Yaml.Merge
import ElasticEndpoint.Yaml.Scalar.Meaning

/-!
Collections of a document. Every node comes to one value however often it is named. A collection is
made when its node is met and filled level by level, so of several faults the one nearest to the root
is reported, and of those at one depth the first.
-/

namespace ElasticEndpoint.Yaml

/-- What a node comes to: a value of its own, or the collection that its node makes. -/
inductive Item where
  | plain (value : Value)
  | collection (id : NodeId)
  deriving Inhabited

/-- A key of a mapping. A number that is none equals no other, so it is the same key only where it
comes from the same node, or each time from the word for it. -/
structure Key where
  value : Value
  origin : Option NodeId

def isNoNumber : Value → Bool
  | .real x => x == .nan
  | _ => false

def Key.same (a b : Key) : Bool :=
  a.value.sameKey b.value || (isNoNumber a.value && isNoNumber b.value && a.origin == b.origin)

inductive Collection where
  | list (items : List Item)
  | pairs (items : List (Item × Item))
  | set (members : List Key)
  | map (entries : List (Key × Item))
  deriving Inhabited

/-- Entries with one more: a key that is already there keeps its place and takes the new value. -/
def insertEntry {α : Type} (entries : List (Key × α)) (key : Key) (value : α) : List (Key × α) :=
  if entries.any fun entry => entry.1.same key then
    entries.map fun entry => if entry.1.same key then (entry.1, value) else entry
  else entries ++ [(key, value)]

/-- The text of a scalar; a mapping has the text of its default entry. -/
def Nodes.scalarText (nodes : Nodes) : Nat → NodeId → Except Fault ScalarText
  | 0, _ => .error .tooDeep
  | fuel + 1, id =>
    let node := nodes.get id
    match node.content with
    | .scalar text => .ok text
    | .mapping entries =>
      match entries.find? fun entry => (nodes.get entry.1).tag == .defaultKey with
      | some entry => nodes.scalarText fuel entry.2
      | none => .error (.marked .constructing none (.expectedNode .scalar .mapping) node.start)
    | content => .error (.marked .constructing none (.expectedNode .scalar content.kind) node.start)

def Nodes.isNoNumberWord (nodes : Nodes) (id : NodeId) : Bool :=
  match nodes.scalarText (nodes.size + 1) id with
  | .ok content => Yaml.isNoNumberWord content.chars
  | .error _ => false

def Nodes.scalarValue (nodes : Nodes) (id : NodeId) : Except Fault Value := do
  let node := nodes.get id
  let unknown := Fault.marked .constructing none (.unknownTag node.tag.name) node.start
  match node.tag with
  | .merge | .defaultKey | .other _ => throw unknown
  | .binary => binaryValue (← nodes.scalarText (nodes.size + 1) id) node.start
  | tag =>
    let content ← nodes.scalarText (nodes.size + 1) id
    match tag, node.content with
    | .timestamp, .mapping _ => throw (.conversion .momentOfMapping)
    | _, _ =>
      match scalarValue? tag content with
      | some converted => converted.mapError .conversion
      | none => throw unknown

/-- The state of making collections: the nodes, what they came to so far, what the collections hold,
and the collections that are to be filled next, the last first. -/
structure Making where
  nodes : Nodes
  merges : Nat
  items : Array (Option Item)
  collections : Array Collection
  next : List NodeId := []

abbrev Maker := StateT Making (Except Fault)

namespace Maker

def isCollection : Tag → Bool
  | .seq | .map | .set | .omap | .pairs => true
  | _ => false

def item (id : NodeId) : Maker Item := do
  let making ← get
  match (making.items[id]?).join with
  | some item => return item
  | none =>
    if isCollection (making.nodes.get id).tag then
      set { making with items := making.items.setIfInBounds id (some (.collection id)), next := id :: making.next }
      return .collection id
    else
      let item := Item.plain (← making.nodes.scalarValue id)
      set { making with items := making.items.setIfInBounds id (some item) }
      return item

def key (start : Place) (id : NodeId) : Maker Key := do
  let nodes := (← get).nodes
  match ← item id with
  | .collection _ =>
    throw (.marked .constructing (some (.mapping, some start)) .unhashableKey (nodes.get id).start)
  | .plain value =>
    return ⟨value, if isNoNumber value && nodes.isNoNumberWord id then none else some id⟩

def items (id : NodeId) : Maker (List Item) := do
  let node := (← get).nodes.get id
  match node.content with
  | .sequence ids => ids.mapM item
  | content => throw (.marked .constructing none (.expectedNode .sequence content.kind) node.start)

def entries (id : NodeId) : Maker (List (Key × Item)) := do
  let node := (← get).nodes.get id
  match node.content with
  | .mapping _ =>
    let nodes ← (← get).nodes.merge ((← get).merges + 1) id
    modify fun making => { making with nodes := nodes }
    (nodes.entriesOf id).foldlM (fun entries entry => do
      let key ← key node.start entry.1
      return insertEntry entries key (← item entry.2)) []
  | content => throw (.marked .constructing none (.expectedNode .mapping content.kind) node.start)

/-- The pairs of a sequence of mappings with one entry. -/
def pairs (activity : Activity) (id : NodeId) : Maker (List (Item × Item)) := do
  let node := (← get).nodes.get id
  let refuse := fun {α : Type} (problem : Problem) (place : Place) =>
    (throw (.marked .constructing (some (activity, some node.start)) problem place) : Maker α)
  match node.content with
  | .sequence ids => ids.mapM fun id => do
    let part := (← get).nodes.get id
    match part.content with
    | .mapping [entry] => return (← item entry.1, ← item entry.2)
    | .mapping entries => refuse (.expectedSingleItem entries.length) part.start
    | content => refuse (.expectedSingleMapping content.kind) part.start
  | content => refuse (.expectedSequence content.kind) node.start

def fill (id : NodeId) : Maker Unit := do
  let collection ← match ((← get).nodes.get id).tag with
    | .set => (fun entries => Collection.set (entries.map (·.1))) <$> entries id
    | .map => .map <$> entries id
    | .omap => .pairs <$> pairs .orderedMap id
    | .pairs => .pairs <$> pairs .pairs id
    | _ => .list <$> items id
  modify fun making => { making with collections := making.collections.setIfInBounds id collection }

/-- Fills collections, and then those that were met inside them. -/
def fillAll : Nat → List NodeId → Maker Unit
  | 0, _ => return ()
  | fuel + 1, level => do
    level.forM fill
    let met := (← get).next.reverse
    if met.isEmpty then return ()
    else
      modify fun making => { making with next := [] }
      fillAll fuel met

end Maker

structure Made where
  collections : Array Collection
  root : Item

def Graph.make (graph : Graph) : Except Fault Made := do
  let size := graph.nodes.size
  let start : Making := ⟨graph.nodes, graph.nodes.mergeCount, Array.replicate size none,
    Array.replicate size (.list []), []⟩
  let (root, making) ← (do
    let root ← Maker.item graph.root
    Maker.fillAll (size + 1) []
    return root : Maker Item).run start
  return ⟨making.collections, root⟩

end ElasticEndpoint.Yaml
