import ElasticEndpoint.Proofs.ClientActs
import ElasticEndpoint.Proofs.PassRequests

/-!
What the client asks for. Each call is served by requests over HTTP that carry the key and the time limit of the
client. A job that is connected to it asks for these, and for what it asks for besides calls.
-/

namespace ElasticEndpoint

/-- Serving what a program may ask for. -/
theorem Program.Uses.interpret {ρ ρ' : Type} {Reply : ρ → Type} {Reply' : ρ' → Type} {ε α : Type}
    {serve : (request : ρ) → Program Reply' ε (Reply request)} {asked : ρ → Prop} {allowed : ρ' → Prop}
    {program : Program Reply ε α} (uses : program.Uses asked)
    (serves : ∀ request, asked request → (serve request).Uses allowed) : (program.interpret serve).Uses allowed := by
  induction program with
  | done result => trivial
  | ask request next ih => exact (serves request uses.1).bind fun reply => ih reply (uses.2 reply)

namespace Metal.Client

section

variable {client : Client} {allowed : Request → Prop} (log : ∀ record, allowed (.log record))

include log

private theorem uses_send {method : Http.Method} {path : String} {params : Option (List (String × Http.Parameter))}
    {json : Option (List (String × String))} (asked : allowed (.http (client.requestOf method path params json))) :
    (client.send method path params json).Uses allowed := by
  refine ⟨log _, fun _ => ⟨asked, fun outcome => ?_⟩⟩
  cases outcome with
  | broken => trivial
  | failed => exact ⟨log _, fun _ => trivial⟩
  | answered status body =>
    change Program.Uses _ (if isOk status then _ else _)
    split
    · rw [valueOf_eq]
      trivial
    · exact ⟨log _, fun _ => trivial⟩

theorem uses_assign {device address : String} (asked : allowed (.http (client.givingOf device address))) :
    (client.assign device address).Uses allowed := by
  apply (uses_send log asked).bind
  intro answer
  refine ⟨log _, fun _ => ?_⟩
  change Program.Uses _ (if answer.truthy then _ else _)
  split
  · cases assignmentOf answer <;> trivial
  · trivial

theorem uses_unassign {assignmentId : String} (asked : allowed (.http (client.removalOf assignmentId))) :
    (client.unassign assignmentId).Uses allowed := by
  apply (uses_send log asked).bind
  exact fun _ => ⟨log _, fun _ => trivial⟩

variable {project : String} {withAssignments : Bool}
  (asked : ∀ page, allowed (.http (client.pageRequest project withAssignments page)))

include asked

private theorem uses_pagesFrom (left page : Nat) : (client.pagesFrom project withAssignments left page).Uses allowed := by
  induction left generalizing page with
  | zero => trivial
  | succ left ih =>
    unfold pagesFrom
    apply (uses_send log (asked page)).bind
    intro answer
    cases pageOf page answer with
    | error crash => trivial
    | ok found =>
      obtain ⟨reservations, isLast⟩ := found
      change Program.Uses _ (if isLast then _ else _)
      split
      · trivial
      · exact (ih (page + 1)).bind fun _ => trivial

private theorem uses_list : (client.list project withAssignments).Uses allowed := by
  apply (uses_pagesFrom log asked client.pageLimit 1).bind
  exact fun _ => ⟨log _, fun _ => trivial⟩

end

private theorem uses_perform {client : Client} {allowed : Request → Prop} (log : ∀ record, allowed (.log record))
    (asked : ∀ method path params json, allowed (.http (client.requestOf method path params json))) (call : Call) :
    (client.perform call).Uses allowed := by
  cases call with
  | list => exact uses_list log fun page => asked ..
  | assign => exact uses_assign log (asked ..)
  | unassign => exact uses_unassign log (asked ..)

/-- A job that is connected to a client asks for no call. -/
theorem uses_connect {client : Client} {allowed : Request → Prop} (log : ∀ record, allowed (.log record))
    (asked : ∀ method path params json, allowed (.http (client.requestOf method path params json))) {α : Type}
    {job : Job α} (uses : job.Uses fun request => request.isMetal = false → allowed request) :
    (client.connect job).Uses allowed := by
  apply uses.interpret
  intro request allows
  cases other : request.isMetal with
  | false =>
    rw [serve_other other]
    exact ⟨allows other, fun _ => trivial⟩
  | true =>
    cases request with
    | metal call => exact (uses_perform log asked call).andThen fun _ => trivial
    | _ => cases other

end Metal.Client

end ElasticEndpoint
