import ElasticEndpoint.Job
import ElasticEndpoint.Cluster.Store
import ElasticEndpoint.Metal.Ledger
import ElasticEndpoint.Simulation.Script

/-!
Surroundings in memory. Jobs run against a cluster store, a ledger of reservations and a script of
answers over HTTP, under a schedule of faults for each kind of call. A call that a fault is due for
has no effect. Everything that a job does is noted in order.
-/

namespace ElasticEndpoint

namespace Cluster

inductive Method where
  | readEndpoints
  | createEndpoints
  | replaceEndpoints
  | readService
  | createService
  | replaceService
  | replaceServiceStatus
  | listServices
  | listNodes
  | readNode
  deriving DecidableEq

def Call.method : Call → Method
  | .readEndpoints .. => .readEndpoints
  | .createEndpoints .. => .createEndpoints
  | .replaceEndpoints .. => .replaceEndpoints
  | .readService .. => .readService
  | .createService .. => .createService
  | .replaceService .. => .replaceService
  | .replaceServiceStatus .. => .replaceServiceStatus
  | .listServices => .listServices
  | .listNodes => .listNodes
  | .readNode _ => .readNode

end Cluster

namespace Metal

inductive Method where
  | list
  | assign
  | unassign
  deriving DecidableEq

def Call.method : Call → Method
  | .list .. => .list
  | .assign .. => .assign
  | .unassign _ => .unassign

end Metal

/-- Faults that are due: for each kind of call a queue, from which every call of the kind takes one
entry; a call fails when it takes a fault. -/
abbrev Schedule (κ φ : Type) := κ → List (Option φ)

namespace Schedule

def clear {κ φ : Type} : Schedule κ φ := fun _ => []

/-- The fault that is due for a call of a kind, and the schedule after the call. -/
def next {κ φ : Type} [DecidableEq κ] (schedule : Schedule κ φ) (kind : κ) : Option φ × Schedule κ φ :=
  match schedule kind with
  | [] => (none, schedule)
  | due :: rest => (due, fun other => if other = kind then rest else schedule other)

def set {κ φ : Type} [DecidableEq κ] (schedule : Schedule κ φ) (kind : κ) (queue : List (Option φ)) :
    Schedule κ φ :=
  fun other => if other = kind then queue else schedule other

end Schedule

inductive Event where
  | log (record : Record)
  | cluster (call : Cluster.Call) (timeout : Option Duration)
  | metal (call : Metal.Call)
  | http (request : Http.Request)

structure World where
  cluster : Cluster.Store := {}
  clusterFaults : Schedule Cluster.Method Cluster.CallFailure := Schedule.clear
  ledger : Metal.Ledger := []
  metalFaults : Schedule Metal.Method Failure := Schedule.clear
  script : Http.Script := .byTarget []
  guard : Guard := .idle
  ports : Ports := Ports.configured (.number 0)
  lastMove : Option Move := none
  events : List Event := []

namespace World

def note (world : World) (event : Event) : World := { world with events := world.events ++ [event] }

def answer : (request : Request) → World → request.Reply × World
  | .log record, world => ((), world.note (.log record))
  | .enterGuard, world =>
    let (entered, guard) := world.guard.tryEnter
    (entered, { world with guard := guard })
  | .leaveGuard, world =>
    let (left, guard) := world.guard.leave
    (left, { world with guard := guard })
  | .guardState, world => (world.guard, world)
  | .ports, world => (world.ports, world)
  | .observePort port, world => (world.ports, { world with ports := world.ports.observe port })
  | .remember move, world => ((), { world with lastMove := some move })
  | .cluster call timeout, world =>
    let world := world.note (.cluster call timeout)
    let (due, faults) := world.clusterFaults.next call.method
    let world := { world with clusterFaults := faults }
    match due with
    | some failure => (.error failure, world)
    | none =>
      let (reply, store) := Cluster.Store.perform call world.cluster
      (reply, { world with cluster := store })
  | .metal call, world =>
    let world := world.note (.metal call)
    let (due, faults) := world.metalFaults.next call.method
    let world := { world with metalFaults := faults }
    match due with
    | some failure => (.error failure, world)
    | none =>
      let (reply, ledger) := Metal.Ledger.perform call world.ledger
      (.ok reply, { world with ledger := ledger })
  | .http request, world =>
    let world := world.note (.http request)
    let (outcome, script) := world.script.serve request
    (outcome, { world with script := script })

def run {α : Type} (world : World) (job : Job α) : Except Failure α × World := Program.run answer job world

end World

end ElasticEndpoint
