import ElasticEndpoint.Failover
import ElasticEndpoint.Resolver

/-!
The node pass: keep the elastic address on a healthy node. The pass looks up the reservation, checks
the elastic address unless it is unassigned, and starts a failover when it does not answer healthy.
At most one pass runs at a time.
-/

namespace ElasticEndpoint.NodePass

/-- What a pass did. -/
inductive Outcome where
  | skipped
  | noReservation
  | healthy
  | reassigned
  deriving DecidableEq

def Outcome.word : Outcome → String
  | .skipped => "skipped"
  | .noReservation => "no-reservation"
  | .healthy => "healthy"
  | .reassigned => "reassigned"

structure Setup where
  project : String
  tag : String
  policy : TransportPolicy
  limits : Failover.Limits

def refuseMultiple (part : Part) (reservation : Reservation) : Job Unit := do
  let count := reservation.assignments.length
  if 1 < count then
    Job.log part .error
      s!"Elastic IP {reservation.address} ({reservation.id}) has {count} assignments"
    Job.problem (.multipleAssignment reservation.id count)

/-- Checks the elastic address itself, and tells whether it is healthy. Under the policy that a
failure of the request is an error, it ends the pass. -/
def checkElastic (setup : Setup) (reservation : Reservation) (eipUrl : String) : Job Bool := do
  if reservation.assignments.isEmpty then
    Job.log .nodes .warning
      s!"Elastic IP {reservation.address} is not assigned to any device, looking for a node"
    return false
  else
    Job.log .nodes .info s!"Health checking elastic IP {eipUrl}"
    let health ← Health.probe setup.limits.probe eipUrl
    if health.isHealthy then return true
    else
      match health with
      | .unreachable error =>
        if setup.policy == .error then
          Job.problem (.probeTransport eipUrl error)
        else
          Job.log .nodes .error
            (s!"HTTP client error during health check of {eipUrl}, " ++
              s!"will try to reassign to a healthy node: {error}")
      | .answered status =>
        Job.log .nodes .warning
          (s!"Elastic IP {eipUrl} returned HTTP {status}, " ++ "will try to reassign to a healthy node")
      return false

def controlPlane : List (Option Cluster.Node) → Job (List Cluster.Node)
  | [] => return []
  | none :: _ => Job.crash .missingPart
  | some node :: rest => do
    if node.isControlPlane then
      Job.log .nodes .debug s!"Adding control plane node {Instance.shownName (Cluster.nameOf node.metadata)}"
      return node :: (← controlPlane rest)
    else controlPlane rest

/-- Starts a failover and remembers where it moved the elastic address. -/
def startFailover (setup : Setup) (nodes : List (Option Cluster.Node)) (reservation : Reservation) (eipUrl : String) :
    Job Outcome :=
  (Failover.run setup.limits nodes reservation eipUrl).andThen fun
    | .ok move => do
      Job.ask (.remember move)
      return .reassigned
    | .error (.problem problem) => do
      Job.log .nodes .error
        s!"Error reassigning control plane endpoint to a different device: {problem.message}"
      Job.problem problem
    | .error failure => .fail failure

/-- A pass that has entered the guard. -/
def inside (setup : Setup) (nodes : List (Option Cluster.Node)) : Job Outcome := do
  let port := (← Job.ports).desired
  if port.isUnknown then
    Job.problem .noDesiredPort
  else
    match ← Resolver.resolve setup.project [setup.tag] with
    | none => return .noReservation
    | some reservation => do
      refuseMultiple .nodes reservation
      let eipUrl := Net.healthUrl reservation.address port
      if ← checkElastic setup reservation eipUrl then return .healthy
      else
        let candidates ← controlPlane nodes
        startFailover setup (candidates.map some) reservation eipUrl

def run (setup : Setup) (nodes : List (Option Cluster.Node)) : Job Outcome := do
  Job.log .nodes .debug "Control plane endpoint: new node reconciliation"
  Job.guarded fun entered => do
    if entered then inside setup nodes
    else
      let state : Guard ← Job.ask .guardState
      Job.log .nodes .debug s!"Control plane endpoint: guard is {state.word}, not starting a new pass"
      return .skipped

end ElasticEndpoint.NodePass
