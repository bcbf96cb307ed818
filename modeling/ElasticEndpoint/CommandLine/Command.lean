import ElasticEndpoint.CommandLine.Option
import ElasticEndpoint.ServicePass
import ElasticEndpoint.Files.Path

/-!
Commands. A command line has options for every command, the name of a command, and the options of
that command. The name is settled before the options behind it are read.
-/

namespace ElasticEndpoint.CommandLine

open Files (Path)

structure Shared where
  verbose : Bool
  logFile : Option Path
  deriving DecidableEq

/-- What a new settings file is to hold and where, and whether it may take the place of another. -/
structure Init where
  project : String
  tag : String
  port : Int
  file : Path
  force : Bool
  deriving DecidableEq

inductive Command where
  | version
  | init (wish : Init)
  | status (file : Path) (port : Int)
  | reconcile (file : Path) (mode : ServicePass.Mode)
  | run (file : Path) (interval : Option Int)
  deriving DecidableEq

inductive CommandName where
  | version
  | init
  | status
  | reconcile
  | run
  deriving DecidableEq

def CommandName.word : CommandName → String
  | .version => "version"
  | .init => "init"
  | .status => "status"
  | .reconcile => "reconcile"
  | .run => "run"

def CommandName.ofWord? (word : String) : Option CommandName :=
  [CommandName.version, .init, .status, .reconcile, .run].find? (·.word == word)

def Shared.options : List Opt := [
  { name := "verbose", letter := some 'v', hasValue := false }, { name := "log-file" }]

def configOption : Opt := { name := "config", letter := some 'c' }

def CommandName.options : CommandName → List Opt
  | .version => []
  | .init => [
    { name := "project-id", letter := some 'p' }, { name := "eip-tag", letter := some 't' },
    { name := "api-server-port" }, configOption, { name := "force", hasValue := false }]
  | .status => [configOption, { name := "port" }]
  | .reconcile => [configOption, { name := "mode", letter := some 'm' }]
  | .run => [configOption, { name := "interval", letter := some 'i' }]

/-- Where the settings are unless another file is named. -/
def defaultFile : String := "endpoint-manager.yml"

def Given.file (given : Given) : Path := Path.ofText ((given.value? configOption.name).getD defaultFile)

/-- The integer value of an option, or a default where it is left out. -/
def Given.integer (given : Given) (name : String) (fallback : Int) : Option Int :=
  match given.value? name with
  | none => some fallback
  | some value => integer? value

def Command.ofGiven (name : CommandName) (given : Given) : Option Command :=
  match name with
  | .version => some .version
  | .init => do
    let project ← given.value? "project-id"
    let tag ← given.value? "eip-tag"
    let port ← given.integer "api-server-port" 0
    return .init ⟨project, tag, port, given.file, given.has "force"⟩
  | .status => return .status given.file (← given.integer "port" 0)
  | .reconcile => do
    let mode ← match given.value? "mode" with
      | none => some ServicePass.Mode.sync
      | some word => ServicePass.Mode.ofWord? word
    return .reconcile given.file mode
  | .run => do
    let interval ← match given.value? "interval" with
      | none => some none
      | some value => (integer? value).map some
    return .run given.file interval

/-- Reads the arguments of a command, which has no others than its options. -/
def Command.read (name : CommandName) (arguments : List String) : Option Command := do
  let given ← Opt.read name.options true arguments
  if given.rest.isEmpty then Command.ofGiven name given else none

/-- A command line whose command is settled. -/
structure Invocation where
  shared : Shared
  name : CommandName
  arguments : List String
  deriving DecidableEq

/-- Reads a command line up to the name of the command. An empty name of a log file asks for none. -/
def Invocation.read (arguments : List String) : Option Invocation := do
  let given ← Opt.read Shared.options false arguments
  match given.rest with
  | [] => none
  | word :: arguments =>
    let name ← CommandName.ofWord? word
    let logFile := (given.value? "log-file").filter fun file => !file.isEmpty
    return ⟨⟨given.has "verbose", logFile.map Path.ofText⟩, name, arguments⟩

end ElasticEndpoint.CommandLine
