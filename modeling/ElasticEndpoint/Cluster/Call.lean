import ElasticEndpoint.Cluster.Fault
import ElasticEndpoint.Cluster.Object

/-!
Calls to the cluster, with the type of the reply to each.
-/

namespace ElasticEndpoint.Cluster

inductive Call where
  | readEndpoints (name space : String)
  | createEndpoints (space : String) (body : Endpoints)
  | replaceEndpoints (name space : String) (body : Endpoints)
  | readService (name space : String)
  | createService (space : String) (body : Service)
  | replaceService (name space : String) (body : Service)
  | replaceServiceStatus (name space : String) (body : Service)
  | listServices
  | listNodes
  | readNode (name : Option String)

@[reducible]
def Call.Reply : Call → Type
  | .readEndpoints .. => Endpoints
  | .createEndpoints .. => Unit
  | .replaceEndpoints .. => Unit
  | .readService .. => Service
  | .createService .. => Unit
  | .replaceService .. => Unit
  | .replaceServiceStatus .. => Unit
  | .listServices => List (Option Service)
  | .listNodes => List (Option Node)
  | .readNode _ => Node

end ElasticEndpoint.Cluster
