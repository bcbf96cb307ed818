/-!
Records of what the program does. Each comes from one part of the program and has a severity.
-/

namespace ElasticEndpoint

inductive Severity where
  | debug
  | info
  | warning
  | error
  deriving DecidableEq

def Severity.name : Severity → String
  | .debug => "DEBUG"
  | .info => "INFO"
  | .warning => "WARNING"
  | .error => "ERROR"

/-- The rank of a severity among all levels. -/
def Severity.level : Severity → Int
  | .debug => 10
  | .info => 20
  | .warning => 30
  | .error => 40

inductive Part where
  | state
  | health
  | instances
  | metal
  | reservations
  | reassignment
  | nodes
  | services
  | manager
  | commandLine
  deriving DecidableEq

def Part.logger : Part → String
  | .state => "endpoint_manager.state"
  | .health => "endpoint_manager.health"
  | .instances => "endpoint_manager.instances"
  | .metal => "endpoint_manager.metal"
  | .reservations => "endpoint_manager.reservations"
  | .reassignment => "endpoint_manager.reassignment"
  | .nodes => "endpoint_manager.nodes"
  | .services => "endpoint_manager.services"
  | .manager => "endpoint_manager.manager"
  | .commandLine => "endpoint_manager.cli"

structure Record where
  part : Part
  severity : Severity
  message : String
  deriving DecidableEq

end ElasticEndpoint
