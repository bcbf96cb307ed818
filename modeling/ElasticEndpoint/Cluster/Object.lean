import ElasticEndpoint.Net.Port

/-!
Objects of the cluster. Each type has the fields that the program reads or writes, and keeps all
other fields of an object as they are.
-/

namespace ElasticEndpoint.Cluster

/-- Fields that are kept and not looked at. -/
abbrev Fields := List (String × Value)

/-- What every object has: a name within a namespace, and labels. -/
structure Meta where
  name : Option String := none
  space : Option String := none
  labels : Option Fields := none
  others : Fields := []

structure ReportedAddress where
  kind : String
  address : String

/-- A node: its metadata, its identity at the cloud provider and its addresses, some of which may be
blank. -/
structure Node where
  metadata : Option Meta
  provider : Option String
  addresses : List (Option ReportedAddress)

/-- A port of a service. The target is a number or the name of a port of the pods behind it. -/
structure ServicePort where
  port : Net.Port
  target : Value := .null
  others : Fields := []

structure ServiceSpec where
  loadBalancerIP : Option String := none
  ports : Option (List (Option ServicePort)) := none
  others : Fields := []

structure Service where
  metadata : Option Meta
  spec : Option ServiceSpec
  status : Option Value := none
  others : Fields := []

structure Endpoints where
  metadata : Option Meta
  subsets : Option (List Value) := none
  others : Fields := []

def nameOf (metadata : Option Meta) : Option String := metadata.bind (·.name)

def spaceOf (metadata : Option Meta) : Option String := metadata.bind (·.space)

def controlPlaneLabels : List String :=
  ["node-role.kubernetes.io/master", "node-role.kubernetes.io/control-plane"]

/-- A node belongs to the control plane when it carries one of the labels, whatever its value. -/
def Node.isControlPlane (node : Node) : Bool :=
  let labels := ((node.metadata.bind (·.labels)).getD []).map (·.1)
  controlPlaneLabels.any labels.contains

end ElasticEndpoint.Cluster
