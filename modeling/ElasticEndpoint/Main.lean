import Std.Time.Zoned
import Std.Time.Format
import ElasticEndpoint.CommandLine.Work

/-!
The program. A command line is carried out on the machine at hand: its screen, its files, its
environment and its clock. It has no way into a cluster and no transport for requests of its own, so
a command that needs one reports that it is denied.
-/

namespace ElasticEndpoint.Machine

open CommandLine (Session)

structure State where
  logging : Logging := {}
  ports : Ports := Ports.configured (.number 0)
  guard : Guard := .idle
  home : Files.Place := []

def textOf (place : Files.Place) : String := "/" ++ "/".intercalate place

def causeOf : IO.Error → Files.Cause
  | .alreadyExists .. => .exists
  | .inappropriateType .. => .isFolder
  | _ => .missing

def tryFile {α : Type} (path : String) (action : IO α) : IO (Except Files.Fault α) := do
  if (Files.Path.ofText path).isNameable then
    try
      return .ok (← action)
    catch error => return .error ⟨causeOf error, path⟩
  else return .error ⟨.unnameable, path⟩

def append (path text : String) : IO Unit := do
  let handle ← IO.FS.Handle.mk path .append
  handle.putStr text

def handle (state : State) (entry : Entry) : IO Unit := do
  let now ← Std.Time.PlainDateTime.now
  for (sink, text) in state.logging.outputs (now.format "uuuu-MM-dd HH:mm:ss") entry do
    match sink with
    | .console => (← IO.getStderr).putStr text
    | .file place => discard (tryFile (textOf place) (append (textOf place) text))

def openLog (state : State) (path : Files.Path) : IO (Except Files.Fault Unit × State) := do
  let place := (Files.Disk.absolute { home := state.home } path).names
  let opened ← tryFile (textOf place) do
    IO.FS.createDirAll (textOf place.dropLast)
    append (textOf place) ""
  match opened with
  | .ok _ => return (.ok (), { state with logging := (state.logging.andFile place).withLibraries })
  | .error fault =>
    if fault.isReported then
      handle state (Logging.fileNotice fault)
      return (.ok (), { state with logging := state.logging.withLibraries })
    else return (.error fault, state)

def setUpLogging (state : State) (setup : Logging.Setup) : IO (Except Files.Fault Unit × State) :=
  match state.logging.onConsole setup with
  | .error _ => return (.ok (), state)
  | .ok logging =>
    match setup.file with
    | none => return (.ok (), { state with logging := logging.withLibraries })
    | some path => openLog { state with logging := logging } path

def answerJob : (request : Request) → State → IO (request.Reply × State)
  | .log record, state => do
    handle state record.entry
    return ((), state)
  | .enterGuard, state =>
    let (entered, guard) := state.guard.tryEnter
    return (entered, { state with guard := guard })
  | .leaveGuard, state =>
    let (left, guard) := state.guard.leave
    return (left, { state with guard := guard })
  | .guardState, state => return (state.guard, state)
  | .ports, state => return (state.ports, state)
  | .observePort port, state => return (state.ports, { state with ports := state.ports.observe port })
  | .remember _, state => return ((), state)
  | .cluster .., state => return (.error (.crash (.system "no way into a cluster")), state)
  | .metal _, state => return (.error (.crash (.system "no transport")), state)
  | .http _, state => return (.failed "ConnectionError" "no transport", state)

def answer : (request : CommandLine.Request) → State → IO (request.Reply × State)
  | .job request, state => answerJob request state
  | .print text, state => do
    (← IO.getStdout).putStr text
    return ((), state)
  | .setUpLogging setup, state => setUpLogging state setup
  | .lowerConsole level, state =>
    return ((), { state with logging := state.logging.lowerConsole level })
  | .pathExists path, state => do
    match ← tryFile path.text (IO.FS.Handle.mk path.text .read) with
    | .ok _ => return (.ok true, state)
    | .error _ => return (.ok false, state)
  | .readFile path, state => return (← tryFile path.text (IO.FS.readFile path.text), state)
  | .writeFile path text, state => return (← tryFile path.text (IO.FS.writeFile path.text text), state)
  | .environmentKey, state => return (← IO.getEnv "METAL_AUTH_TOKEN", state)
  | .enterCluster, state => return (.denied "no way into a cluster", state)
  | .startPasses ports, state => return ((), { state with ports := ports, guard := .idle })
  | .sleep seconds, state => do
    IO.sleep (1000 * seconds.toNat).toUInt32
    return (true, state)

def run {α : Type} : Session α → State → IO (Except CommandLine.Ending α)
  | Program.done result, _ => return result
  | Program.ask request next, state => do
    let (reply, state) ← answer request state
    run (next reply) state

/-- The exit code of a session, which says on the error stream what no command answers for. -/
def exitCode : Except CommandLine.Ending Unit → IO UInt32
  | .ok () => return 0
  | .error (.exit code) => return code.toUInt32
  | .error (.crash _) => do
    IO.eprintln "The command failed."
    return 1
  | .error (.unshowable _) => do
    IO.eprintln "A text has tags that cannot be shown."
    return 1
  | .error (.unreachable fault) => do
    IO.eprintln fault.message
    return 1

/-- More pages, and more syncs in a row, than any run comes to. -/
def limits : CommandLine.Limits := ⟨1000000, 1000000000000⟩

end ElasticEndpoint.Machine

def main (arguments : List String) : IO UInt32 := do
  let folder := (← IO.currentDir).toString
  let home := (ElasticEndpoint.Files.Path.ofText folder).names
  let session := ElasticEndpoint.CommandLine.carryOut ElasticEndpoint.Machine.limits arguments
  ElasticEndpoint.Machine.exitCode (← ElasticEndpoint.Machine.run session { home := home })
