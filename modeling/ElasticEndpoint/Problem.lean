import ElasticEndpoint.Complaint

/-!
Problems and crashes. A problem is a failure that the program knows and reports: it belongs to a
family, says in one message what went wrong and may give details. A crash is a failure that nothing
in the program answers for.
-/

namespace ElasticEndpoint

inductive Family where
  | general
  | configuration
  | portNotDetermined
  | metal (status : Option Int)
  | moveIncomplete (status : Option Int)
  | instanceLookup
  | cluster
  | multipleAssignment (reservation : String) (count : Int)
  | invalidService
  | serviceNotFound
  | noHealthyCandidate (checked : Int)
  | probeTransport
  deriving DecidableEq

namespace Family

def name : Family → String
  | .general => "EndpointManagerError"
  | .configuration => "ConfigurationError"
  | .portNotDetermined => "PortNotDeterminedError"
  | .metal _ => "MetalAPIError"
  | .moveIncomplete _ => "ReassignmentIncompleteError"
  | .instanceLookup => "InstanceLookupError"
  | .cluster => "KubernetesError"
  | .multipleAssignment .. => "MultipleAssignmentError"
  | .invalidService => "InvalidServiceError"
  | .serviceNotFound => "ServiceNotFoundError"
  | .noHealthyCandidate _ => "NoHealthyCandidateError"
  | .probeTransport => "HealthCheckTransportError"

/-- The family that a family is a special case of; the general one is a case of no other. -/
def parent : Family → Option Family
  | .general => none
  | .portNotDetermined => some .configuration
  | .moveIncomplete status => some (.metal status)
  | _ => some .general

/-- Whether a problem of a family counts as a problem of the cloud interface. -/
def isMetal : Family → Bool
  | .metal _ | .moveIncomplete _ => true
  | _ => false

/-- The status that the cloud interface answered with, for its problems. -/
def status? : Family → Option Int
  | .metal status | .moveIncomplete status => status
  | _ => none

/-- The family itself and those above it, up to the general one. -/
def lineage (family : Family) : List Family :=
  match family with
  | .general => [.general]
  | .portNotDetermined => [.portNotDetermined, .configuration, .general]
  | .moveIncomplete status => [.moveIncomplete status, .metal status, .general]
  | family => [family, .general]

end Family

/-- A failure that the program reports. `following` names the family of the problem that this one
was raised for. -/
structure Problem where
  family : Family
  message : String
  details : Option String := none
  following : Option Family := none
  deriving DecidableEq

/-- The message, with the details below it unless there are none. -/
def Problem.text (problem : Problem) : String :=
  match problem.details with
  | none => problem.message
  | some details =>
    if details.isEmpty then problem.message else problem.message ++ "\n\nDetails: " ++ details

/-- A failure that the program does not answer for. -/
inductive Crash where
  | missingPart
  | wrongKind
  | missingKey (key : String)
  | unreadableNumber
  /-- A number is beyond every range. -/
  | tooLarge
  /-- A time of an object of the cluster cannot be read. -/
  | unreadableTime
  /-- A part that an object of the cluster must have is not there. -/
  | incomplete
  | refused (refusal : Refusal)
  | runtime (text : String)
  | system (text : String)
  | tooDeep
  | endless

inductive Failure where
  | problem (problem : Problem)
  | crash (crash : Crash)

namespace Problem

/-- No tag tells which reservation holds the elastic address. -/
def noTag : Problem where
  family := .configuration
  message := "Control plane load balancer elastic IP tag is empty. Nothing to do"
  details := some "Set eip_tag in the configuration to the tag of the reserved elastic IP"

/-- The port of the elastic address is neither configured nor learned yet. -/
def noDesiredPort : Problem where
  family := .configuration
  message := "Control plane API server port not provided or determined, cannot check"
  details := some "Will try again on next loop"

def noKey : Problem where
  family := .configuration
  message := "No Equinix Metal API key configured"
  details := some "Set api_key in the configuration or export METAL_AUTH_TOKEN"

def noNodePort : Problem where
  family := .portNotDetermined
  message := "Control plane node API server port not yet determined, cannot reassign"
  details := some "It is learned from the default/kubernetes service; will try again on next loop"

def multipleAssignment (reservation : String) (count : Int) : Problem where
  family := .multipleAssignment reservation count
  message := s!"The elastic IP {reservation} has {count} devices assigned to it, which is not supported"
  details := some "Fix it manually by unassigning devices until at most one remains"

/-- No address of a control plane node answered healthy. -/
def noHealthyCandidate (checked : Int) : Problem where
  family := .noHealthyCandidate checked
  message := "Did not find a good candidate for the control plane elastic IP. Cluster is unhealthy"
  details := some s!"Checked {checked} address(es); the current assignment was left untouched"

/-- The health of the elastic address could not be asked for. -/
def probeTransport (url error : String) : Problem where
  family := .probeTransport
  message := s!"Health check of elastic IP {url} failed to complete"
  details := some error

/-- The elastic address was taken from its device and not given to the next. -/
def moveIncomplete (address instanceId : String) (cause : Problem) : Problem where
  family := .moveIncomplete cause.family.status?
  message := s!"Elastic IP {address} is unassigned: assigning it to device {instanceId} failed"
  details := some "The next reconciliation will search for a healthy node again"
  following := some cause.family

/-- The full listing of services lacks the server's own. -/
def serviceNotFound (name : String) : Problem where
  family := .serviceNotFound
  message := s!"Service {name} not found"

/-- The server's service has no ports. -/
def serviceWithoutPorts (name : String) : Problem where
  family := .invalidService
  message := s!"{name} service does not have any ports defined"

def cluster (message reason : String) : Problem where
  family := .cluster
  message := message
  details := some reason

def instanceLookup (message details : String) : Problem where
  family := .instanceLookup
  message := message
  details := some details

def metal (message : String) (details : Option String) (status : Option Int := none) : Problem where
  family := .metal status
  message := message
  details := details

end Problem

end ElasticEndpoint
