import ElasticEndpoint.CommandLine.Command
import ElasticEndpoint.CommandLine.Session
import ElasticEndpoint.Metal.Client
import ElasticEndpoint.Settings.File
import ElasticEndpoint.Sync

/-!
The work of commands. Everything a command meets is printed or recorded, and the exit code tells
whether it went well: zero, one for what went wrong, and 130 when it was interrupted.
-/

namespace ElasticEndpoint.CommandLine

open Files (Path)
open Session (print printError printProblem)

def showVersion : Session Unit :=
  Session.ask (.print s!"cp-endpoint-manager version {Metal.Client.version}\n")

def Init.data (wish : Init) : List (Value × Value) := [
  (.text "project_id", .text wish.project), (.text "eip_tag", .text wish.tag),
  (.text "api_server_port", .int wish.port)]

def Init.notice (wish : Init) : String := s!"[green]✓[/green] Wrote {wish.file.text}"

/-- Writes new settings to a file that is not there yet, or is to be replaced. -/
def writeSettings (wish : Init) : Session Unit := do
  let isThere ← Session.askFile (Session.ask (.pathExists wish.file))
  if isThere && !wish.force then
    printError s!"{wish.file.text} already exists (use --force to overwrite)"
    Session.exit 1
  else match Settings.ofData wish.data with
    | .error refusal => do
      printError refusal.message
      Session.exit 1
    | .ok settings => do
      Session.askFile (Session.ask (.writeFile wish.file settings.save))
      print wish.notice

def refuseFile {α : Type} (file : Path) (reason : String) : Session α := do
  printError s!"Invalid configuration in {file.text}: {reason}"
  Session.exit 1

def readSettings (file : Path) : Session Settings := do
  let isThere ← Session.askFile (Session.ask (.pathExists file))
  if !isThere then
    printError s!"Configuration file not found: {file.text}"
    print s!"\nCreate one with: cp-endpoint-mgr init --project-id <id> --config {file.text}"
    Session.exit 1
  else
    let content : Except Files.Fault String ← Session.ask (.readFile file)
    match content with
    | .error fault => refuseFile file fault.message
    | .ok text =>
      match Settings.load text with
      | .error fault => refuseFile file (fault.message file.text)
      | .ok settings => return settings

def keyFor (settings : Settings) : Session (Option String) := do
  let inEnvironment : Option String ← Session.ask .environmentKey
  return (settings.resolvedKey inEnvironment).filter fun key => !key.isEmpty

def clientFor (settings : Settings) (key : String) (pageLimit : Nat) : Metal.Client :=
  Metal.Client.make key settings.apiUrl settings.callLimit pageLimit

def usualPort : Int := 6443

def firstPort (ports : List Int) : Int := (ports.find? (· != 0)).getD usualPort

def healthText : Health → String
  | .answered status =>
    if (Health.answered status).isHealthy then "[green]✓ Healthy[/green]" else s!"[red]✗ HTTP {status}[/red]"
  | .unreachable error => s!"[red]✗ {error}[/red]"

def assignmentRows (reservation : Reservation) : List (List String) :=
  if reservation.assignments.isEmpty then [["Assigned to", "[yellow]nothing[/yellow]"]]
  else reservation.assignments.map fun assignment =>
    ["Assigned to", (assignment.device.filter fun device => !device.isEmpty).getD assignment.id]

def statusTable (reservation : Reservation) (url : String) (health : Health) : Console.Table where
  title := "Control Plane Elastic IP"
  head := ["Field", "Value"]
  rows := [["Reservation", reservation.id], ["Address", reservation.address],
    ["Tags", ", ".intercalate reservation.tags]] ++ assignmentRows reservation ++
    [["Health check", url], ["Health", healthText health]]

def valueOrExit {α : Type} (job : Job α) : Session α := do
  match ← Session.job job with
  | .ok value => return value
  | .error problem => do
    printProblem problem
    Session.exit 1

def showStatus (pageLimit : Nat) (file : Path) (port : Int) : Session Unit := do
  let settings ← readSettings file
  match ← keyFor settings with
  | none => do
    printError "No Metal API key; set api_key or export METAL_AUTH_TOKEN"
    Session.exit 1
  | some key => do
    let client := clientFor settings key pageLimit
    match ← valueOrExit (client.connect (Resolver.resolve settings.projectId [settings.eipTag])) with
    | none => do
      print (s!"[yellow]No elastic IP tagged '{settings.eipTag}' in project " ++
        s!"{settings.projectId}[/yellow]")
      Session.exit 1
    | some reservation => do
      let url := Net.healthUrl reservation.address (.number (firstPort [port, settings.apiServerPort]))
      let health ← valueOrExit (Health.probe settings.probeLimit url)
      Session.put (statusTable reservation url health).printed
      if 1 < reservation.assignments.length then
        print "\n[red]⚠ More than one device is assigned; unassign all but one manually[/red]"
        Session.exit 1
      else return ()

def enterCluster : Session Unit := do
  let access : ClusterAccess ← Session.ask .enterCluster
  match access with
  | .inside => Session.log .info "Using in-cluster config"
  | .localFile => Session.log .info "Using local kubeconfig"
  | .denied reason => do
    printError s!"Failed to load kubeconfig: {reason}"
    print "\nRun inside the cluster or make sure ~/.kube/config is available"
    Session.exit 1

/-- The settings of a command that runs passes, and the client that the passes use. -/
def prepare (pageLimit : Nat) (file : Path) : Session (Settings × Metal.Client) := do
  let settings ← readSettings file
  enterCluster
  match ← keyFor settings with
  | none => do
    printProblem .noKey
    Session.exit 1
  | some key => do
    Session.ask (.startPasses (Ports.configured (.number settings.apiServerPort)))
    return (settings, clientFor settings key pageLimit)

/-- A sync, whose problems are in its report. -/
def sync (settings : Settings) (client : Metal.Client) (mode : ServicePass.Mode) : Session SyncReport :=
  valueOrExit (client.connect (Sync.run settings mode))

def reportTable (report : SyncReport) : Console.Table where
  title := "Reconciliation"
  head := ["Reconciler", "Outcome"]
  rows := [
    ["services", (report.service.map ServicePass.Outcome.word).getD "[red]failed[/red]"],
    ["nodes", (report.node.map NodePass.Outcome.word).getD "[red]failed[/red]"]]

def printProblems : List Problem → Session Unit
  | [] => return ()
  | problem :: rest => do
    printProblem problem
    printProblems rest

def reconcileOnce (pageLimit : Nat) (file : Path) (mode : ServicePass.Mode) : Session Unit := do
  let (settings, client) ← prepare pageLimit file
  let report ← sync settings client mode
  Session.put (reportTable report).printed
  printProblems report.problems
  if report.isOk then return () else Session.exit 1

def logProblems (period : Int) : List Problem → Session Unit
  | [] => return ()
  | problem :: rest => do
    Session.log .warning s!"Reconciliation error, will retry in {period}s: {problem.message}"
    logProblems period rest

/-- Runs syncs with a pause after each until a pause is interrupted, or so many have been run. -/
def repeatSyncs (settings : Settings) (client : Metal.Client) (period : Int) : Nat → Session Unit
  | 0 => return ()
  | left + 1 => do
    let report ← sync settings client .sync
    logProblems period report.problems
    let lasted : Bool ← Session.ask (.sleep period)
    if lasted then repeatSyncs settings client period left
    else do
      print "\n[yellow]Stopped by user[/yellow]"
      Session.exit 130

/-- Runs syncs again and again, with a pause that is told; one that has too many digits to be told ends
the session. -/
def keepReconciling (pageLimit passLimit : Nat) (file : Path) (interval : Option Int) : Session Unit := do
  Session.ask (.lowerConsole Severity.info.level)
  let (settings, client) ← prepare pageLimit file
  let period := (interval.filter (· != 0)).getD settings.interval
  if Text.isTooLong period then Program.fail (.crash .unreadableNumber)
  print s!"[bold cyan]Reconciling every {period}s[/bold cyan] (Ctrl-C to stop)"
  repeatSyncs settings client period passLimit

/-- What a command line may take: so many pages of a listing, and so many syncs in a row. -/
structure Limits where
  pages : Nat
  passes : Nat

def Command.carryOut (limits : Limits) : Command → Session Unit
  | .version => showVersion
  | .init wish => writeSettings wish
  | .status file port => showStatus limits.pages file port
  | .reconcile file mode => reconcileOnce limits.pages file mode
  | .run file interval => keepReconciling limits.pages limits.passes file interval

/-- The exit code for a command line that cannot be read. -/
def usageCode : Nat := 2

/-- Carries out a command line. Logging is set up as soon as the command is settled. -/
def carryOut (limits : Limits) (arguments : List String) : Session Unit :=
  match Invocation.read arguments with
  | none => Session.exit usageCode
  | some invocation => do
    let shared := invocation.shared
    Session.askFile (Session.ask (.setUpLogging { file := shared.logFile, verbose := shared.verbose }))
    Session.log .debug "Logging initialized"
    match Command.read invocation.name invocation.arguments with
    | none => Session.exit usageCode
    | some command => command.carryOut limits

end ElasticEndpoint.CommandLine
