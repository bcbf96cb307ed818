import ElasticEndpoint.Cluster.Schema
import ElasticEndpoint.Cluster.Store

/-!
Manifests. An object of the cluster is exchanged as data: the fields with their names, without those
that hold nothing. A manifest is brought into the form of its kind of object before the object is
read from it, and an object is written back to its manifest. A blank manifest is no object.
-/

namespace ElasticEndpoint

namespace Value

def decodedItems {α : Type} (decode : Value → α) (items : List Value) : List (Option α) :=
  items.map fun
    | .null => none
    | item => some (decode item)

def encodedItems {α : Type} (encode : α → Value) (items : List (Option α)) : Value :=
  .list (items.map fun item => item.elim .null encode)

def textField? (name : String) (data : Value) : Option String :=
  match data.field? name with
  | some (.text s) => some s
  | _ => none

def listField? (name : String) (data : Value) : Option (List Value) :=
  match data.field? name with
  | some (.list items) => some items
  | _ => none

def fieldsBut (names : List String) : Value → Cluster.Fields
  | .map entries => entries.filterMap fun
    | (.text name, value) => if names.contains name then none else some (name, value)
    | _ => none
  | _ => []

def ofFields (fields : List (String × Option Value)) (others : Cluster.Fields) : Value :=
  object ((fields.filterMap fun field => field.2.map fun value => (field.1, value)) ++ others)

end Value

namespace Cluster

def Meta.ofManifest (data : Value) : Meta where
  name := data.textField? "name"
  space := data.textField? "namespace"
  labels := (data.field? "labels").map (Value.fieldsBut [])
  others := data.fieldsBut ["name", "namespace", "labels"]

def Meta.manifest (m : Meta) : Value :=
  .ofFields [("name", m.name.map .text), ("namespace", m.space.map .text),
    ("labels", m.labels.map Value.object)] m.others

def ReportedAddress.ofManifest (data : Value) : ReportedAddress where
  kind := (data.textField? "type").getD ""
  address := (data.textField? "address").getD ""

def Node.ofManifest (data : Value) : Node where
  metadata := (data.field? "metadata").map Meta.ofManifest
  provider := (data.field? "spec").bind (Value.textField? "providerID")
  addresses := Value.decodedItems ReportedAddress.ofManifest
    (((data.field? "status").bind (Value.listField? "addresses")).getD [])

def ServicePort.ofManifest (data : Value) : ServicePort where
  port := .ofValue ((data.field? "port").getD .null)
  target := (data.field? "targetPort").getD .null
  others := data.fieldsBut ["port", "targetPort"]

def ServicePort.manifest (port : ServicePort) : Value :=
  .ofFields [("port", some port.port.toValue),
    ("targetPort", match port.target with
      | .null => none
      | target => some target)] port.others

/-- The wanted state of a service in a manifest. -/
def ServiceSpec.ofManifest (data : Value) : ServiceSpec where
  loadBalancerIP := data.textField? "loadBalancerIP"
  ports := (data.listField? "ports").map (Value.decodedItems ServicePort.ofManifest)
  others := data.fieldsBut ["loadBalancerIP", "ports"]

def ServiceSpec.manifest (spec : ServiceSpec) : Value :=
  .ofFields [("loadBalancerIP", spec.loadBalancerIP.map .text),
    ("ports", spec.ports.map (Value.encodedItems ServicePort.manifest))] spec.others

def Service.ofManifest (data : Value) : Service where
  metadata := (data.field? "metadata").map Meta.ofManifest
  spec := (data.field? "spec").map ServiceSpec.ofManifest
  status := data.field? "status"
  others := data.fieldsBut ["metadata", "spec", "status"]

def Service.manifest (service : Service) : Value :=
  .ofFields [("metadata", service.metadata.map Meta.manifest),
    ("spec", service.spec.map ServiceSpec.manifest), ("status", service.status)] service.others

def Endpoints.ofManifest (data : Value) : Endpoints where
  metadata := (data.field? "metadata").map Meta.ofManifest
  subsets := data.listField? "subsets"
  others := data.fieldsBut ["metadata", "subsets"]

def Endpoints.manifest (endpoints : Endpoints) : Value :=
  .ofFields [("metadata", endpoints.metadata.map Meta.manifest),
    ("subsets", endpoints.subsets.map .list)] endpoints.others

def readObject {α : Type} (form : Form) (decode : Value → α) (data : Value) : Except Crash (Option α) := do
  match ← form.bring data with
  | .null => return none
  | brought => return some (decode brought)

def readNodes (data : List Value) : Except Crash (List (Option Node)) :=
  data.mapM (readObject Schema.node Node.ofManifest)

def readServices (data : List Value) : Except Crash (List (Option Service)) :=
  data.mapM (readObject Schema.service Service.ofManifest)

def readEndpoints (data : List Value) : Except Crash (List (Option Endpoints)) :=
  data.mapM (readObject Schema.endpoints Endpoints.ofManifest)

namespace Store

/-- The store with the objects in manifests in place of its own, for those kinds that are given. -/
def read (nodes services endpoints : Option (List Value)) (store : Store) : Except Crash Store := do
  return {
    nodes := ← nodes.elim (.ok store.nodes) readNodes
    services := ← services.elim (.ok store.services) readServices
    endpoints := ← endpoints.elim (.ok store.endpoints) readEndpoints }

/-- The namespace and the name of an object, with blanks for those that it has not. -/
def key (metadata : Option Meta) : String × String := ((spaceOf metadata).getD "", (nameOf metadata).getD "")

/-- Objects as manifests in the order of namespaces and names. There must be no blank among them. -/
def inventory {α : Type} (metadata : α → Option Meta) (manifest : α → Value) (objects : List (Option α)) :
    Except Crash (List Value) :=
  match objects.mapM id with
  | none => .error .missingPart
  | some objects =>
    let isBefore := fun a b : α =>
      let (x, y) := (key (metadata a), key (metadata b))
      x.1 < y.1 || (x.1 == y.1 && x.2 ≤ y.2)
    .ok ((objects.mergeSort isBefore).map manifest)

def manifest (store : Store) : Except Crash Value := do
  let services ← inventory Service.metadata Service.manifest store.services
  let endpoints ← inventory Endpoints.metadata Endpoints.manifest store.endpoints
  return Value.object [("services", .list services), ("endpoints", .list endpoints)]

end Store

end Cluster

end ElasticEndpoint
