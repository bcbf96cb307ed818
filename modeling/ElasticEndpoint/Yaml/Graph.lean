import ElasticEndpoint.Yaml.Kind

/-!
Documents as graphs. A node is a tagged scalar, sequence or mapping. The nodes of a document are
numbered in the order in which they begin, and a collection holds the numbers of its parts. A node
that is named again is so one node in several places, and a collection may hold itself.
-/

namespace ElasticEndpoint.Yaml

/-- The number of a node in its document. -/
abbrev NodeId := Nat

inductive Content where
  | scalar (text : ScalarText)
  | sequence (items : List NodeId)
  | mapping (entries : List (NodeId × NodeId))
  deriving Inhabited

def Content.kind : Content → NodeKind
  | .scalar _ => .scalar
  | .sequence _ => .sequence
  | .mapping _ => .mapping

structure Node where
  tag : Tag
  content : Content
  start : Place

instance : Inhabited Node := ⟨⟨.null, default, default⟩⟩

abbrev Nodes := Array Node

namespace Nodes

def get (nodes : Nodes) (id : NodeId) : Node := nodes[id]?.getD default

def setContent (nodes : Nodes) (id : NodeId) (content : Content) : Nodes :=
  nodes.modify id fun node => { node with content := content }

def setTag (nodes : Nodes) (id : NodeId) (tag : Tag) : Nodes :=
  nodes.modify id fun node => { node with tag := tag }

def entriesOf (nodes : Nodes) (id : NodeId) : List (NodeId × NodeId) :=
  match (nodes.get id).content with
  | .mapping entries => entries
  | _ => []

end Nodes

structure Graph where
  nodes : Nodes
  root : NodeId

end ElasticEndpoint.Yaml
