import ElasticEndpoint.Metal.Call

/-!
A cloud interface in memory. Assigning adds an assignment named after the device to the first
reservation of the address; removing takes every assignment of a name away.
-/

namespace ElasticEndpoint.Metal

abbrev Ledger := List Reservation

def newAssignment (instanceId address : String) : Assignment :=
  ⟨"asg-" ++ instanceId, some address, some instanceId⟩

namespace Ledger

def assign (instanceId address : String) : Ledger → Ledger
  | [] => []
  | r :: rest =>
    if r.address == address then
      { r with assignments := r.assignments ++ [newAssignment instanceId address] } :: rest
    else r :: assign instanceId address rest

def unassign (assignmentId : String) (ledger : Ledger) : Ledger :=
  ledger.map fun r => { r with assignments := r.assignments.filter (·.id != assignmentId) }

/-- What a call comes to, and the ledger after it. -/
def perform : (call : Call) → Ledger → call.Reply × Ledger
  | .list _ _, ledger => (ledger, ledger)
  | .assign instanceId address, ledger =>
    (newAssignment instanceId address, ledger.assign instanceId address)
  | .unassign assignmentId, ledger => ((), ledger.unassign assignmentId)

end Ledger

end ElasticEndpoint.Metal
