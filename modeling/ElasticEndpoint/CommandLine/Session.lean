import ElasticEndpoint.Console.Screen
import ElasticEndpoint.Job
import ElasticEndpoint.Logging

/-!
Sessions. What a command does is a program over what a command line offers: a screen, files, the
environment, logging, a way into the cluster and a clock, besides everything that a job may ask for.
-/

namespace ElasticEndpoint

/-- How the cluster can be reached: from inside it, by a local configuration, or not at all, with
the reason. -/
inductive ClusterAccess where
  | inside
  | localFile
  | denied (reason : String)
  deriving DecidableEq

namespace CommandLine

open Files (Path)

inductive Request where
  | job (request : ElasticEndpoint.Request)
  | print (text : String)
  | setUpLogging (setup : Logging.Setup)
  | lowerConsole (level : Int)
  | pathExists (path : Path)
  | readFile (path : Path)
  | writeFile (path : Path) (text : String)
  | environmentKey
  | enterCluster
  | startPasses (ports : Ports)
  | sleep (seconds : Int)

/-- The type of the reply to a request. A sleep tells whether it lasted its time or was
interrupted. -/
def Request.Reply : Request → Type
  | .job request => request.Reply
  | .print _ => Unit
  | .setUpLogging _ => Except Files.Fault Unit
  | .lowerConsole _ => Unit
  | .pathExists _ => Except Files.Fault Bool
  | .readFile _ => Except Files.Fault String
  | .writeFile .. => Except Files.Fault Unit
  | .environmentKey => Option String
  | .enterCluster => ClusterAccess
  | .startPasses _ => Unit
  | .sleep _ => Bool

/-- How a session ends before its end: with an exit code, or by something that no command answers
for. -/
inductive Ending where
  | exit (code : Nat)
  | crash (crash : Crash)
  | unshowable (fault : Console.MarkupFault)
  | unreachable (fault : Files.Fault)

abbrev Session := Program Request.Reply Ending

namespace Session

def ask (request : Request) : Session request.Reply := Program.request request

def exit {α : Type} (code : Nat) : Session α := .fail (.exit code)

/-- Asks for something to do with a file, which must not fail. -/
def askFile {α : Type} (request : Session (Except Files.Fault α)) : Session α := do
  match ← request with
  | .ok value => return value
  | .error fault => .fail (.unreachable fault)

def put (shown : Except Console.MarkupFault String) : Session Unit :=
  match shown with
  | .ok text => ask (.print text)
  | .error fault => .fail (.unshowable fault)

def print (text : String) : Session Unit := put (Console.printed text)

def printError (text : String) : Session Unit := print s!"[red]Error:[/red] {text}"

def printProblem (problem : Problem) : Session Unit := do
  printError problem.message
  match problem.details with
  | none => return ()
  | some details => if details.isEmpty then return () else print s!"\n{details}"

def job {α : Type} (job : Job α) : Session (Except Problem α) :=
  (job.interpret fun request => Program.request (Request.job request)).andThen fun
    | .ok value => .done (.ok (.ok value))
    | .error (Failure.problem problem) => .done (.ok (.error problem))
    | .error (Failure.crash crash) => .fail (.crash crash)

def log (severity : Severity) (message : String) : Session Unit :=
  ask (.job (.log ⟨.commandLine, severity, message⟩))

end Session

end CommandLine

end ElasticEndpoint
