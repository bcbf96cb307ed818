import ElasticEndpoint.Metal.Answer
import ElasticEndpoint.Json.Reader
import ElasticEndpoint.Settings.Basic
import ElasticEndpoint.Job

/-!
The client of the cloud interface: each call as requests over HTTP. A status from 400 to 599 is a
problem, and so is a request that fails or an answer that is not JSON. Reservations are listed page
by page until the page that an answer calls the last.
-/

namespace ElasticEndpoint.Metal

/-- How the interface is reached: the key, the address, the time limit of a request, and the number
of pages after which a listing is given up. -/
structure Client where
  key : String
  url : String
  timeout : Option Duration
  pageLimit : Nat

namespace Client

def version : String := "0.1.0"

/-- A client for an address, with or without slashes at its end. -/
def make (key url : String) (timeout : Option Duration) (pageLimit : Nat) : Client :=
  ⟨key, String.ofList (Text.trimEnd (· == '/') url.toList), timeout, pageLimit⟩

def headers (client : Client) : List (String × String) :=
  [("X-Auth-Token", client.key), ("Content-Type", "application/json"), ("Accept", "application/json"),
    ("User-Agent", s!"cp-endpoint-manager/{version}")]

/-- Whether a status stands for success. -/
def isOk (status : Int) : Bool := !(400 ≤ status && status < 600)

def requestOf (client : Client) (method : Http.Method) (path : String)
    (params : Option (List (String × Http.Parameter))) (json : Option (List (String × String))) :
    Http.Request where
  method := method
  url := client.url ++ path
  timeout := client.timeout
  headers := client.headers
  params := params
  json := json

def valueOf (name : String) (status : Int) (body : List UInt8) : Job Value :=
  if status == 204 || body.isEmpty then return .null
  else
    let text := (Text.Utf8.decode body).toList
    match Json.parse text with
    | .ok value => return value
    | .error .tooDeep => Job.crash .tooDeep
    | .error fault => Job.problem (.metal s!"Metal API {name} returned invalid JSON" (some (fault.message text)))

/-- Sends the request of a call, and gives the value that is answered. -/
def send (client : Client) (method : Http.Method) (path : String)
    (params : Option (List (String × Http.Parameter)) := none) (json : Option (List (String × String)) := none) :
    Job Value := do
  let name := s!"{method.name} {path}"
  let request := client.requestOf method path params json
  Job.log .metal .debug s!"Metal API {method.name} {request.url}"
  match ← Job.http request with
  | .broken text => Job.crash (.system text)
  | .failed _ text => do
    Job.log .metal .error s!"Metal API request {name} failed: {text}"
    Job.problem (.metal s!"Metal API request {name} failed" (some text))
  | .answered status body =>
    if isOk status then valueOf name status body
    else do
      let text := Text.Utf8.decode body
      Job.log .metal .error s!"Metal API {name} returned HTTP {status}: {text}"
      Job.problem (.metal s!"Metal API {name} returned HTTP {status}"
        (if text.isEmpty then none else some text) (some status))

def reading {α : Type} : Reading α → Job α
  | .ok value => return value
  | .error crash => Job.crash crash

def pageParams (withAssignments : Bool) (page : Nat) : List (String × Http.Parameter) :=
  [("per_page", .number 250), ("page", .number page)] ++
    if withAssignments then [("include", .word "assignments")] else []

def pagesFrom (client : Client) (project : String) (withAssignments : Bool) : Nat → Nat → Job (List Reservation)
  | 0, _ => Job.crash .endless
  | left + 1, page => do
    let answer ← client.send .get s!"/projects/{project}/ips" (some (pageParams withAssignments page))
    let (reservations, isLast) ← reading (pageOf page answer)
    if isLast then return reservations
    else return reservations ++ (← pagesFrom client project withAssignments left (page + 1))

def list (client : Client) (project : String) (withAssignments : Bool) : Job (List Reservation) := do
  let reservations ← client.pagesFrom project withAssignments client.pageLimit 1
  Job.log .metal .debug s!"Listed {reservations.length} IP reservations in project {project}"
  return reservations

/-- Gives an address to a device. An answer without content stands for an assignment without
identity. -/
def assign (client : Client) (instanceId address : String) : Job Assignment := do
  let answer ← client.send .post s!"/devices/{instanceId}/ips" none (some [("address", address)])
  Job.log .metal .info s!"Assigned {address} to device {instanceId}"
  if answer.truthy then reading (assignmentOf answer)
  else return ⟨"", some address, some instanceId⟩

def unassign (client : Client) (assignmentId : String) : Job Unit := do
  let _ ← client.send .delete s!"/ips/{assignmentId}"
  Job.log .metal .info s!"Removed IP assignment {assignmentId}"

def perform (client : Client) : (call : Call) → Job call.Reply
  | .list project withAssignments => client.list project withAssignments
  | .assign instanceId address => client.assign instanceId address
  | .unassign assignmentId => client.unassign assignmentId

/-- Serves a request: calls to the cloud interface by the client, and all others as they are. -/
def serve (client : Client) : (request : Request) → Job request.Reply
  | .metal call => (client.perform call).attempt
  | request => Job.ask request

/-- A job with its calls to the cloud interface served by the client. -/
def connect {α : Type} (client : Client) (job : Job α) : Job α := job.interpret client.serve

end Client

end ElasticEndpoint.Metal
