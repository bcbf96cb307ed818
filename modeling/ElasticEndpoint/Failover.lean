import ElasticEndpoint.Health
import ElasticEndpoint.Instance

/-!
Failover: the elastic address goes to the first control plane node that answers healthy. Nodes are
tried in the order given, and the addresses of a node in the order it reports them, except host
names and the elastic address itself. The move removes the present assignment before it makes the
new one, so a move that fails half way leaves the address unassigned.
-/

namespace ElasticEndpoint.Failover

structure Limits where
  api : Option Duration
  probe : Option Duration

def unassign (reservation : Reservation) (assignment : Assignment) : Job Unit := do
  Job.log .reassignment .info s!"Unassigning {reservation.address} from assignment {assignment.id}"
  Job.metal (.unassign assignment.id)

/-- Gives a reservation to a device after its assignment was removed: a problem of the cloud
interface leaves the move incomplete. -/
def reassign (reservation : Reservation) (instanceId : String) : Job Unit :=
  (Job.metal (.assign instanceId reservation.address)).andThen fun
    | .ok _ => pure ()
    | .error (.problem problem) =>
      if problem.family.isMetal then do
        Job.log .reassignment .error
          (s!"Elastic IP {reservation.address} was unassigned but assigning it to " ++
            s!"device {instanceId} failed: {problem.message}")
        Job.problem (.moveIncomplete reservation.address instanceId problem)
      else Job.problem problem
    | .error failure => .fail failure

/-- Moves a reservation with at most one assignment to a device, and gives the identity of the
assignment removed. -/
def move (reservation : Reservation) (instanceId : String) : Job (Option String) :=
  match reservation.assignments with
  | [assignment] => do
    unassign reservation assignment
    reassign reservation instanceId
    return some assignment.id
  | _ => do
    let _ ← Job.metal (.assign instanceId reservation.address)
    return none

/-- Gives a reservation to the device of a node with a healthy address. -/
def handOver (limits : Limits) (reservation : Reservation) (node : Option String) (address : String) : Job Move := do
  let instanceId ← Instance.instanceId limits.api node
  let previous ← move reservation instanceId
  Job.log .reassignment .info
    s!"Control plane endpoint {reservation.address} assigned to node {Instance.shownName node}"
  return ⟨node, address, instanceId, previous⟩

/-- What came of trying addresses: a move, or the number of addresses checked so far. -/
inductive Trial where
  | moved (move : Move)
  | checked (count : Nat)
  deriving DecidableEq

def tryAddresses (limits : Limits) (port : Net.Port) (reservation : Reservation) (eipUrl : String)
    (node : Option String) : Nat → List NodeAddress → Job Trial
  | count, [] => return .checked count
  | count, candidate :: rest => do
    if !candidate.isProbeTarget then
      Job.log .reassignment .debug s!"Skipping address check of type {candidate.kind}: {candidate.address}"
      tryAddresses limits port reservation eipUrl node count rest
    else
      let url := Net.healthUrl candidate.address port
      if url == eipUrl then
        Job.log .reassignment .debug
          s!"Skipping address check for the elastic IP on node {Instance.shownName node}: {eipUrl}"
        tryAddresses limits port reservation eipUrl node count rest
      else
        Job.log .reassignment .info s!"Health checking node {Instance.shownName node} at {url}"
        let health ← Health.probe limits.probe url
        if health.isHealthy then return .moved (← handOver limits reservation node candidate.address)
        else
          match health with
          | .answered status =>
            Job.log .reassignment .info
              (s!"Will not assign control plane endpoint to node {Instance.shownName node}: " ++
                s!"returned HTTP {status}")
          | .unreachable _ => pure ()
          tryAddresses limits port reservation eipUrl node (count + 1) rest

def tryNodes (limits : Limits) (port : Net.Port) (reservation : Reservation) (eipUrl : String) :
    Nat → List (Option Cluster.Node) → Job Trial
  | count, [] => return .checked count
  | count, node :: rest =>
    match node.bind (·.metadata) with
    | none => Job.crash .missingPart
    | some metadata => do
      let addresses ← Instance.nodeAddresses limits.api metadata.name
      match ← tryAddresses limits port reservation eipUrl metadata.name count addresses with
      | .moved move => return .moved move
      | .checked count => tryNodes limits port reservation eipUrl count rest

/-- Gives a reservation with at most one assignment to the first healthy node; the health address of
the elastic address itself is never checked here. -/
def run (limits : Limits) (nodes : List (Option Cluster.Node)) (reservation : Reservation) (eipUrl : String) :
    Job Move := do
  let port := (← Job.ports).node
  if port.isUnknown then
    Job.problem .noNodePort
  else if 1 < reservation.assignments.length then
    Job.problem (.multipleAssignment reservation.id reservation.assignments.length)
  else
    match ← tryNodes limits port reservation eipUrl 0 nodes with
    | .moved move => return move
    | .checked count => do
      Job.log .reassignment .error
        s!"No healthy control plane candidate among {nodes.length} node(s), {count} address(es)"
      Job.problem (.noHealthyCandidate count)

end ElasticEndpoint.Failover
