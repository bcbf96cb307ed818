import ElasticEndpoint.Job

/-!
Nodes as instances of the cloud provider. The node object tells the addresses that a node reports
and, in its provider identity, the device it runs on.
-/

namespace ElasticEndpoint

structure NodeAddress where
  kind : String
  address : String
  deriving DecidableEq

namespace NodeAddress

/-- An address must not be empty. -/
def checkAddress (s : String) : Checked String :=
  if s.isEmpty then .error (.rule "address cannot be empty") else .ok s

def ofData (data : List (Value × Value)) : Except Refusal NodeAddress :=
  let kind := requiredField data "type" Value.toText
  let address := requiredField data "address" fun v => do checkAddress (← v.toText)
  match kind, address with
  | .ok kind, .ok address => .ok ⟨kind, address⟩
  | _, _ => .error ⟨"NodeAddress", findingOf kind ++ findingOf address⟩

/-- Host names depend on name service and are not checked. -/
def isProbeTarget (address : NodeAddress) : Bool := address.kind != "Hostname"

end NodeAddress

namespace Instance

def providerSchemes : List String := ["equinixmetal://", "packet://"]

def deviceAfter (scheme : String) (provider : String) : Option String :=
  if scheme.toList.isPrefixOf provider.toList then
    let device := (((provider.toList.drop scheme.length).dropWhile (· == '/')).reverse.dropWhile (· == '/')).reverse
    if device.isEmpty then none else some (String.ofList device)
  else none

def deviceOf (provider : String) : Except Problem String :=
  match providerSchemes.findSome? fun scheme => deviceAfter scheme provider with
  | some device => .ok device
  | none => .error (.instanceLookup s!"Unrecognised provider ID '{provider}'"
      ("Expected one of the prefixes: " ++ ", ".intercalate providerSchemes))

def shownName (name : Option String) : String := name.getD "None"

def readNode (timeout : Option Duration) (name : Option String) : Job Cluster.Node := do
  match ← Job.cluster (.readNode name) timeout with
  | .ok node => return node
  | .error fault => do
    Job.log .instances .error s!"Failed to read node {shownName name}: {fault.description}"
    Job.problem (.instanceLookup s!"Failed to read node {shownName name}" fault.description)

/-- A reported address as a node address, unless it is empty. -/
def nodeAddress? (reported : Cluster.ReportedAddress) : Option NodeAddress :=
  if reported.address.isEmpty then none else some ⟨reported.kind, reported.address⟩

/-- The addresses of a node in the order in which it reports them. -/
def nodeAddresses (timeout : Option Duration) (name : Option String) : Job (List NodeAddress) := do
  let node ← readNode timeout name
  match node.addresses.mapM id with
  | some reported => return reported.filterMap nodeAddress?
  | none => Job.crash .missingPart

def instanceId (timeout : Option Duration) (name : Option String) : Job String := do
  let node ← readNode timeout name
  match node.provider with
  | none => missing
  | some provider =>
    if provider.isEmpty then missing
    else match deviceOf provider with
      | .ok device => return device
      | .error problem => Job.problem problem
where
  /-- A node without a provider identity. -/
  missing : Job String :=
    Job.problem (.instanceLookup s!"Node {shownName name} has no provider ID"
      "The cloud controller manager has not initialised this node yet")

end Instance

end ElasticEndpoint
