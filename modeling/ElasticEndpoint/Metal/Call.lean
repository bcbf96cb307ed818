import ElasticEndpoint.Reservation

/-!
Calls to the cloud interface, with the type of the reply to each.
-/

namespace ElasticEndpoint.Metal

inductive Call where
  | list (project : String) (withAssignments : Bool)
  | assign (instanceId address : String)
  | unassign (assignmentId : String)
  deriving DecidableEq

@[reducible]
def Call.Reply : Call → Type
  | .list .. => List Reservation
  | .assign .. => Assignment
  | .unassign _ => Unit

end ElasticEndpoint.Metal
