import ElasticEndpoint.Program
import ElasticEndpoint.Record
import ElasticEndpoint.Guard
import ElasticEndpoint.Ports
import ElasticEndpoint.Http
import ElasticEndpoint.Metal.Call
import ElasticEndpoint.Cluster.Call

/-!
Jobs. The passes of the program are written as programs over one vocabulary of requests: records,
the state that passes share, and the calls to the cluster, to the cloud interface and over HTTP.
-/

namespace ElasticEndpoint

/-- Where the elastic address was moved to, and the assignment that was removed for it. -/
structure Move where
  node : Option String
  address : String
  instanceId : String
  previous : Option String
  deriving DecidableEq

inductive Request where
  | log (record : Record)
  | enterGuard
  | leaveGuard
  | guardState
  | ports
  | observePort (port : Net.Port)
  | remember (move : Move)
  | cluster (call : Cluster.Call) (timeout : Option Duration)
  | metal (call : Metal.Call)
  | http (request : Http.Request)

/-- The type of the reply to a request. Entering and leaving tell whether they succeeded, and an
observation gives the ports before it. -/
@[reducible]
def Request.Reply : Request → Type
  | .log _ => Unit
  | .enterGuard => Bool
  | .leaveGuard => Bool
  | .guardState => Guard
  | .ports => Ports
  | .observePort _ => Ports
  | .remember _ => Unit
  | .cluster call _ => Except Cluster.CallFailure call.Reply
  | .metal call => Except Failure call.Reply
  | .http _ => Http.Outcome

abbrev Job := Program Request.Reply Failure

namespace Job

def ask (request : Request) : Job request.Reply := Program.ask request fun reply => .done (.ok reply)

def problem {α : Type} (problem : Problem) : Job α := .fail (.problem problem)

def crash {α : Type} (crash : Crash) : Job α := .fail (.crash crash)

/-- A value that is there already, or a crash. -/
def ofExcept {α : Type} : Except Crash α → Job α
  | .ok value => pure value
  | .error failure => crash failure

def log (part : Part) (severity : Severity) (message : String) : Job Unit :=
  ask (.log ⟨part, severity, message⟩)

def logAll : List Record → Job Unit
  | [] => pure ()
  | record :: rest => do
    ask (.log record)
    logAll rest

def ports : Job Ports := ask .ports

/-- Notes the port that the server's service points at, and gives the desired port after that. -/
def observePort (port : Net.Port) : Job Net.Port := do
  let before : Ports ← ask (.observePort port)
  logAll (before.notices port)
  return (before.observe port).desired

/-- Calls the cluster; a crash ends the job and a fault is for the caller to answer for. -/
def cluster (call : Cluster.Call) (timeout : Option Duration) : Job (Except Cluster.Fault call.Reply) :=
  Program.ask (Request.cluster call timeout) fun
    | .ok reply => .done (.ok (.ok reply))
    | .error (.fault fault) => .done (.ok (.error fault))
    | .error (.crash crash) => .done (.error (.crash crash))

def metal (call : Metal.Call) : Job call.Reply :=
  Program.ask (Request.metal call) fun reply => .done reply

def http (request : Http.Request) : Job Http.Outcome := ask (.http request)

def leaveGuard : Job Unit := do
  let left : Bool ← ask .leaveGuard
  if left then return () else crash (.runtime Guard.leftWhileIdle)

/-- Runs a body inside the guard, which tells it whether it was entered. Only an entered guard is
left, whatever the body ends in, and a guard that cannot be left replaces that end. -/
def guarded {α : Type} (body : Bool → Job α) : Job α := do
  let entered : Bool ← ask .enterGuard
  (body entered).andThen fun result =>
    if entered then leaveGuard.bind fun _ => .done result else .done result

end Job

end ElasticEndpoint
