import ElasticEndpoint.Net.Port
import ElasticEndpoint.Record
import ElasticEndpoint.Text.Digit

/-!
Ports. The desired port is the one the elastic address is published on: the configured one, or the
first that is observed. The node port is the one the servers listen on: the one last observed. Zero
stands for unknown in both.
-/

namespace ElasticEndpoint

open Net (Port)

structure Ports where
  desired : Port
  node : Port
  explicit : Bool

namespace Ports

/-- The ports at the start: the configured one, or nothing known. -/
def configured (port : Port) : Ports := ⟨port, .number 0, !port.isUnknown⟩

/-- After an observation the node port is the observed one, and so is the desired port if it was
unknown. -/
def observe (ports : Ports) (port : Port) : Ports :=
  { ports with node := port, desired := if ports.desired.isUnknown then port else ports.desired }

/-- What is recorded about an observation, given the ports before it. -/
def notices (ports : Ports) (port : Port) : List Record :=
  let note := fun message : String => Record.mk .state .info message
  (if ports.node.same port then []
  else
    note s!"Control plane nodes serve the API on port {port.shown}" ::
      (if ports.explicit && !port.same ports.desired then
        [note (s!"Elastic IP is published on the configured port {ports.desired.shown}, " ++
          s!"forwarding to node port {port.shown}")]
      else [])) ++
  (if ports.desired.isUnknown then [note s!"Adopted port {port.shown} for the control plane elastic IP"] else [])

end Ports

/-- What the target port of a service port comes to: a number, given as it is or in digits; the
service port itself, with a warning when the target has a name; or digits that give no number, be it
that some are ornamental or that there are too many. -/
inductive TargetPort where
  | number (port : Port)
  | servicePort (warning : Option String)
  | notNumber
  deriving Inhabited

/-- Reads the target of a service port. Digits of every script are read. -/
def TargetPort.read (port : Port) (target : Value) : TargetPort :=
  let named := TargetPort.servicePort <|
    if target.truthy then
      some s!"Named target port '{target.shown}' on the API server service, using port {port.shown}"
    else none
  match target with
  | .int _ | .bool _ => .number (.ofValue target)
  | .text s =>
    let digits := s.toList
    if digits.isEmpty || !digits.all Text.isDigitLike then named
    else if Text.digitLimit < digits.length then .notNumber
    else match Text.decimalNumber? digits with
      | some n => .number (.number n)
      | none => .notNumber
  | _ => named

end ElasticEndpoint
