import ElasticEndpoint.NodePass

/-!
The service pass: publish the control plane behind the elastic address. The service of the
interface server is mirrored into a service whose load balancer address and status are the elastic
address, with endpoints that repeat its own.
-/

namespace ElasticEndpoint.ServicePass

open Cluster (Service Endpoints ServicePort ServiceSpec Meta)

/-- Why the services are handed over: all of them, or a change that holds only some. -/
inductive Mode where
  | add
  | remove
  | sync
  deriving DecidableEq

def Mode.word : Mode → String
  | .add => "add"
  | .remove => "remove"
  | .sync => "sync"

def Mode.ofWord? (word : String) : Option Mode :=
  [Mode.add, .remove, .sync].find? (·.word == word)

inductive Outcome where
  | noReservation
  | notFound
  | mirrored
  deriving DecidableEq

def Outcome.word : Outcome → String
  | .noReservation => "no-reservation"
  | .notFound => "not-found"
  | .mirrored => "mirrored"

structure Setup where
  project : String
  tag : String
  timeout : Option Duration

def serverSpace : String := "default"

def serverName : String := "kubernetes"

def serverPath : String := serverSpace ++ "/" ++ serverName

def mirrorSpace : String := "kube-system"

def mirrorName : String := "cloud-provider-equinix-metal-kubernetes-external"

def mirrorPath : String := mirrorSpace ++ "/" ++ mirrorName

/-- The annotation by which another load balancer leaves the mirrored service alone. -/
def poolMark : String × Value :=
  ("metallb.universe.tf/address-pool", .text "disabled-metallb-do-not-use-any-address-pool")

/-- Reports a fault and ends the job with a problem of the cluster. -/
def refuse {α : Type} (note message : String) (fault : Cluster.Fault) : Job α := do
  Job.log .services .error s!"{note}: {fault.description}"
  Job.problem (.cluster message fault.description)

def newEndpoints : Endpoints where
  metadata := some { name := some mirrorName, space := some mirrorSpace }

def mirroredEndpoints (timeout : Option Duration) : Job (Bool × Endpoints) := do
  match ← Job.cluster (.readEndpoints mirrorName mirrorSpace) timeout with
  | .ok mine => return (true, mine)
  | .error fault =>
    if fault.isNotFound then
      Job.log .services .info s!"Endpoints {mirrorPath} did not yet exist, creating"
      return (false, newEndpoints)
    else refuse "Failed to get mirrored endpoints" s!"Failed to get endpoints {mirrorPath}" fault

def mirrorEndpoints (timeout : Option Duration) (space name : String) : Job Unit := do
  match ← Job.cluster (.readEndpoints name space) timeout with
  | .error fault =>
    let text := s!"Failed to get endpoints {space}/{name}"
    refuse text text fault
  | .ok served => do
    let (existed, mine) ← mirroredEndpoints timeout
    let mine := { mine with subsets := some (served.subsets.getD []) }
    let written ←
      if existed then Job.cluster (.replaceEndpoints mirrorName mirrorSpace mine) timeout
      else Job.cluster (.createEndpoints mirrorSpace mine) timeout
    match written with
    | .ok () => return ()
    | .error fault =>
      let text := if existed then "Failed to update mirrored endpoints" else "Failed to create mirrored endpoints"
      refuse text text fault

def newService (eip : String) (ports : List (Option ServicePort)) : Service where
  metadata := some {
    name := some mirrorName
    space := some mirrorSpace
    others := [("annotations", .object [poolMark])] }
  spec := some { loadBalancerIP := some eip, ports := some ports, others := [("type", .text "LoadBalancer")] }

def mirroredService (timeout : Option Duration) : Job (Option Service) := do
  match ← Job.cluster (.readService mirrorName mirrorSpace) timeout with
  | .ok existing => return some existing
  | .error fault =>
    if fault.isNotFound then return none
    else refuse "Failed to get mirrored service" s!"Failed to get service {mirrorPath}" fault

/-- Writes the mirrored service: the address and the ports are the mirror's own, and everything else
of an existing service is kept. -/
def mirrorService (timeout : Option Duration) (eip : String) (ports : List (Option ServicePort)) : Job Unit := do
  match ← mirroredService timeout with
  | some existing =>
    Job.log .services .debug s!"Service {mirrorName} already exists, just updating"
    match existing.spec with
    | none => Job.crash .missingPart
    | some spec => do
      let updated := { existing with spec := some { spec with loadBalancerIP := some eip, ports := some ports } }
      match ← Job.cluster (.replaceService mirrorName mirrorSpace updated) timeout with
      | .ok () => return ()
      | .error fault => refuse "Failed to update service" s!"Failed to update service {mirrorName}" fault
  | none => do
    Job.log .services .info s!"Service {mirrorName} did not exist, creating"
    match ← Job.cluster (.createService mirrorSpace (newService eip ports)) timeout with
    | .ok () => return ()
    | .error fault => refuse "Failed to create service" s!"Failed to create service {mirrorName}" fault

/-- The status that names an address as the only one a load balancer answers on. -/
def ingressStatus (eip : String) : Value :=
  .object [("loadBalancer", .object [("ingress", .list [.object [("ip", .text eip)]])])]

def refuseStatus {α : Type} (fault : Cluster.Fault) : Job α :=
  refuse "Failed to update service status" s!"Failed to update status of service {mirrorName}" fault

def publishStatus (timeout : Option Duration) (eip : String) : Job Unit := do
  match ← Job.cluster (.readService mirrorName mirrorSpace) timeout with
  | .error fault => refuseStatus fault
  | .ok service => do
    let published := { service with status := some (ingressStatus eip) }
    match ← Job.cluster (.replaceServiceStatus mirrorName mirrorSpace published) timeout with
    | .error fault => refuseStatus fault
    | .ok () => Job.log .services .debug s!"Published load balancer ingress {eip} on {mirrorName}"

/-- The port that a service port points at on the nodes. -/
def targetOf (port : ServicePort) : Job Net.Port :=
  match TargetPort.read port.port port.target with
  | .number target => return target
  | .servicePort none => return port.port
  | .servicePort (some warning) => do
    Job.log .services .warning warning
    return port.port
  | .notNumber => Job.crash .unreadableNumber

def mirror (timeout : Option Duration) (space name : String) (first : ServicePort)
    (others : List (Option ServicePort)) (eip : String) : Job Unit := do
  let desired ← Job.observePort (← targetOf first)
  mirrorEndpoints timeout space name
  mirrorService timeout eip (some { first with port := desired } :: others)
  publishStatus timeout eip

/-- Finds the server's service and mirrors it. -/
def mirrorFirst (timeout : Option Duration) (mode : Mode) (eip : String) :
    List (Option Service) → Job Outcome
  | [] =>
    if mode == .sync then do
      Job.log .services .error s!"Service {serverPath} not found in sync"
      Job.problem (.serviceNotFound serverPath)
    else return .notFound
  | none :: _ => Job.crash .missingPart
  | some service :: rest =>
    match service.metadata with
    | none => Job.crash .missingPart
    | some metadata =>
      if metadata.space == some serverSpace && metadata.name == some serverName then
        match (service.spec.bind (·.ports)).getD [] with
        | [] => do
          Job.log .services .error s!"{serverPath} service has no ports"
          Job.problem (.serviceWithoutPorts serverPath)
        | none :: _ => Job.crash .missingPart
        | some first :: others => do
          mirror timeout serverSpace serverName first others eip
          return .mirrored
      else mirrorFirst timeout mode eip rest

def run (setup : Setup) (services : List (Option Service)) (mode : Mode) : Job Outcome := do
  match ← Resolver.resolve setup.project [setup.tag] with
  | none => return .noReservation
  | some reservation => do
    NodePass.refuseMultiple .services reservation
    mirrorFirst setup.timeout mode reservation.address services

end ElasticEndpoint.ServicePass
