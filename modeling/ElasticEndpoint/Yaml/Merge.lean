import ElasticEndpoint.Yaml.Graph

/-!
Merging. A mapping takes in the entries of the mappings that its merge keys name; they come before
its own, which therefore win. What is merged in may itself merge, and is settled first. A merge key
is used up when it is met, so that mappings which merge one another come to an end.
-/

namespace ElasticEndpoint.Yaml.Nodes

def isMergeKey (nodes : Nodes) (id : NodeId) : Bool := (nodes.get id).tag == .merge

def mergeCount (nodes : Nodes) : Nat :=
  nodes.foldl (fun count node =>
    match node.content with
    | .mapping entries => count + (entries.filter fun entry => nodes.isMergeKey entry.1).length
    | _ => count) 0

/-- The value of the first merge key among some entries, and the entries without it. -/
def takeMerge (nodes : Nodes) : List (NodeId × NodeId) → Option (NodeId × List (NodeId × NodeId))
  | [] => none
  | entry :: rest =>
    if nodes.isMergeKey entry.1 then some (entry.2, rest)
    else (nodes.takeMerge rest).map fun taken => (taken.1, entry :: taken.2)

/-- The nodes where a default key that is a key of a mapping is plain text. -/
def withPlainKeys (nodes : Nodes) (id : NodeId) : Nodes :=
  (nodes.entriesOf id).foldl (fun nodes entry =>
    if (nodes.get entry.1).tag == .defaultKey then nodes.setTag entry.1 .str else nodes) nodes

def mergeFault (start : Place) (problem : Problem) (node : Node) : Fault :=
  .marked .constructing (some (.mapping, some start)) problem node.start

/-- Settles what a mapping merges in, for as many merge keys as may have to be used up. -/
def merge : Nat → NodeId → Nodes → Except Fault Nodes
  | 0, _, nodes => .ok nodes
  | fuel + 1, id, nodes =>
    match nodes.takeMerge (nodes.entriesOf id) with
    | none => .ok (nodes.withPlainKeys id)
    | some (target, own) => do
      let start := (nodes.get id).start
      let nodes := nodes.setContent id (.mapping own)
      let (merged, nodes) ← match (nodes.get target).content with
        | .mapping _ => do
          let nodes ← merge fuel target nodes
          pure (nodes.entriesOf target, nodes)
        | .sequence items => do
          let (parts, nodes) ← items.foldlM (fun (state : List (List (NodeId × NodeId)) × Nodes) item => do
            let (parts, nodes) := state
            match (nodes.get item).content with
            | .mapping _ =>
              let nodes ← merge fuel item nodes
              return (nodes.entriesOf item :: parts, nodes)
            | content =>
              throw (mergeFault start (.expectedMergeMapping content.kind) (nodes.get item))) ([], nodes)
          pure (parts.flatten, nodes)
        | content => throw (mergeFault start (.expectedMerge content.kind) (nodes.get target))
      let nodes ← merge fuel id nodes
      return nodes.setContent id (.mapping (merged ++ nodes.entriesOf id))

end ElasticEndpoint.Yaml.Nodes
