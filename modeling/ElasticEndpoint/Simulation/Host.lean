import ElasticEndpoint.CommandLine.Work
import ElasticEndpoint.Simulation.World

/-!
A host in memory. Sessions run on a host that has a disk, a terminal, logging, an environment and a
way into the cluster, around the world that jobs run in. A sleep lasts until the patience of whoever
waits is used up. What the system refuses breaks a session off: a terminal may not take a text, and
the writing of a file may end before its end.
-/

namespace ElasticEndpoint

open CommandLine (Session)

/-- What the system refuses, and what it says then: the texts that the terminal does not take, and all
but so many characters of a file that is written anew. -/
structure Outages where
  screen : String → Option String := fun _ => none
  files : Option (Nat × String) := none

/-- A host, with what came out of it so far. -/
structure Host where
  world : World := {}
  disk : Files.Disk := {}
  logging : Logging := {}
  time : String := ""
  key : Option String := none
  access : ClusterAccess := .localFile
  patience : Nat := 1
  outages : Outages := {}
  screen : List String := []
  notices : List String := []
  sleeps : List Int := []

namespace Host

def write (host : Host) : Logging.Sink × String → Host
  | (.console, text) => { host with notices := host.notices ++ [text] }
  | (.file place, text) => { host with disk := host.disk.append place text }

def handle (host : Host) (entry : Entry) : Host :=
  (host.logging.outputs host.time entry).foldl write host

private theorem kept_writes (outputs : List (Logging.Sink × String)) (host : Host) :
    (outputs.foldl write host).logging = host.logging ∧ (outputs.foldl write host).outages = host.outages := by
  induction outputs generalizing host with
  | nil => exact ⟨rfl, rfl⟩
  | cons output rest ih =>
    obtain ⟨sink, text⟩ := output
    cases sink <;> exact ih _

theorem logging_handle (host : Host) (entry : Entry) : (host.handle entry).logging = host.logging :=
  (kept_writes (host.logging.outputs host.time entry) host).1

theorem outages_handle (host : Host) (entry : Entry) : (host.handle entry).outages = host.outages :=
  (kept_writes (host.logging.outputs host.time entry) host).2

/-- Sets logging up, and tells why that ended before its end. -/
def setUpLogging (host : Host) (setup : Logging.Setup) : Option Logging.SetupFault × Host :=
  let ready := host.logging.setUp setup host.disk
  let host := { host with logging := ready.logging, disk := ready.disk }
  (ready.fault, ready.notice.elim host host.handle)

/-- Answers what a job asks for; a record is an entry besides. -/
def answerJob (request : Request) (host : Host) : request.Reply × Host :=
  let (reply, world) := World.answer request host.world
  let host := { host with world := world }
  match request with
  | .log record => (reply, host.handle record.entry)
  | _ => (reply, host)

def answer : (request : CommandLine.Request) → Host → request.Reply × Host
  | .job request, host => answerJob request host
  | .print text, host => ((), { host with screen := host.screen ++ [text] })
  | .setUpLogging setup, host =>
    match host.setUpLogging setup with
    | (some (.file fault), host) => (.error fault, host)
    | (_, host) => (.ok (), host)
  | .lowerConsole level, host => ((), { host with logging := host.logging.lowerConsole level })
  | .pathExists path, host => (host.disk.pathExists path, host)
  | .readFile path, host => (host.disk.read path, host)
  | .writeFile path text, host =>
    match host.disk.write path text with
    | .ok disk => (.ok (), { host with disk := disk })
    | .error fault => (.error fault, host)
  | .environmentKey, host => (host.key, host)
  | .enterCluster, host => (host.access, host)
  | .startPasses ports, host =>
    ((), { host with world := { host.world with ports := ports, guard := .idle, lastMove := none } })
  | .sleep seconds, host =>
    let sleeps := host.sleeps ++ [seconds]
    (decide (sleeps.length < host.patience), { host with sleeps := sleeps })

/-- What the system says where it breaks a session off at a request, with what is left of the host. A
text that is not taken does not show; a file that is not written to its end holds what was written by
then. -/
def brokenOff? (host : Host) : CommandLine.Request → Option (String × Host)
  | .print text => (host.outages.screen text).map fun reason => (reason, host)
  | .writeFile path text =>
    match host.outages.files, host.disk.filePlace path with
    | some (count, reason), .ok place =>
      some (reason, { host with disk := host.disk.rewrite place (String.ofList (text.toList.take count)) })
    | _, _ => none
  | _ => none

/-- Answers a request of a session unless it is broken off. -/
def attend (request : CommandLine.Request) (host : Host) : Except CommandLine.Ending request.Reply × Host :=
  match host.brokenOff? request with
  | some (reason, host) => (.error (.crash (.system reason)), host)
  | none =>
    let (reply, host) := answer request host
    (.ok reply, host)

def run {α : Type} (host : Host) (session : Session α) : Except CommandLine.Ending α × Host :=
  let (outcome, host) := session.tryRun attend host
  (outcome.bind id, host)

theorem outages_answer (request : CommandLine.Request) (host : Host) :
    (answer request host).2.outages = host.outages := by
  cases request with
  | job request =>
    cases request with
    | log record => exact outages_handle ..
    | _ => rfl
  | setUpLogging setup =>
    have kept : (host.setUpLogging setup).2.outages = host.outages := by
      unfold setUpLogging
      dsimp only
      cases (host.logging.setUp setup host.disk).notice with
      | none => rfl
      | some entry => exact outages_handle ..
    unfold answer
    dsimp only
    split
    all_goals
      next outcome =>
        rw [outcome] at kept
        exact kept
  | writeFile path text =>
    unfold answer
    dsimp only
    split <;> rfl
  | _ => rfl

/-- Where the system refuses nothing, a session runs to its end. -/
theorem run_unbroken {α : Type} {host : Host} (whole : host.outages = {}) (session : Session α) :
    host.run session = Program.run answer session host := by
  have attended : ∀ request (host : Host), host.outages = {} →
      attend request host = (.ok (answer request host).1, (answer request host).2) ∧
        (answer request host).2.outages = {} := by
    intro request host whole
    have unbroken : host.brokenOff? request = none := by
      unfold brokenOff?
      rw [whole]
      cases request <;> rfl
    refine ⟨?_, (outages_answer request host).trans whole⟩
    unfold attend
    rw [unbroken]
  unfold run
  rw [Program.tryRun_eq_run attend attended session whole]
  rfl

/-- What came out of a command line: its ending, if it did not come to its end, and the host. -/
def carryOut (host : Host) (pageLimit : Nat) (arguments : List String) :
    Except CommandLine.Ending Unit × Host :=
  host.run (CommandLine.carryOut ⟨pageLimit, max 1 host.patience⟩ arguments)

end Host

end ElasticEndpoint
