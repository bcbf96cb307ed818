import ElasticEndpoint.Proofs.ClientActs
import ElasticEndpoint.Proofs.FailoverSearch
import ElasticEndpoint.Proofs.WorldActs

/-!
The exchange of a move with the cloud interface. A move removes the present assignment by one request and
makes another by a second one. What the client reads of the replies decides how it goes on, and that is not
the status alone: the exchange shows in the result as it took place exactly if both replies are clear.
-/

namespace ElasticEndpoint

open Metal (assignmentOf)
open Metal.Client (bodyOf replyOf removed given Served)

namespace Http.Outcome

def status? : Outcome → Option Int
  | .answered status _ => some status
  | _ => none

def isAccepted : Outcome → Bool
  | .answered status _ => status < 400
  | _ => false

/-- A request that failed, or was answered with the status of an error. -/
def isRefused : Outcome → Bool
  | .answered status _ => 400 ≤ status && status < 600
  | .failed .. => true
  | .broken _ => false

/-- An answer without content, or with one that can be read. -/
def Legible (reads : Value → Prop) : Outcome → Prop
  | .answered status body =>
    status = 204 ∨ body = [] ∨ ∃ value, Json.parse (Text.Utf8.decode body).toList = .ok value ∧ reads value
  | _ => False

/-- A reply to a removal that is taken for what its status says. -/
def IsClearRemoval (removal : Outcome) : Prop :=
  if removal.isAccepted then removal.Legible fun _ => True
  else removal.isRefused = true ∨ ¬removal.Legible fun _ => True

/-- A reply to the making of an assignment that is taken for what its status says. -/
def IsClearGiving (giving : Outcome) : Prop :=
  if giving.isAccepted then
    giving.Legible fun answer => answer.truthy = true → ∃ assignment, assignmentOf answer = .ok assignment
  else giving.isRefused = true

end Http.Outcome

def Act.outcomes (method : Http.Method) (acts : List Act) : List Http.Outcome :=
  acts.filterMap fun
    | ⟨.http request, outcome⟩ => if request.method = method then some outcome else none
    | _ => none

namespace Act

variable {method : Http.Method}

@[simp]
theorem outcomes_nil : outcomes method [] = [] := rfl

@[simp]
theorem outcomes_append (first rest : List Act) :
    outcomes method (first ++ rest) = outcomes method first ++ outcomes method rest := List.filterMap_append

end Act

namespace Metal.Client

theorem bodyOf_ok_iff (name : String) {status : Int} {body : List UInt8} {reads : Value → Prop} (none : reads .null) :
    (∃ value, bodyOf name status body = .ok value ∧ reads value) ↔
      (Http.Outcome.answered status body).Legible reads := by
  change _ ↔ (status = 204 ∨ body = [] ∨ ∃ value, Json.parse (Text.Utf8.decode body).toList = .ok value ∧ reads value)
  unfold bodyOf
  split
  next blank =>
    have blank : status = 204 ∨ body = [] := by simpa using blank
    constructor
    · intro _
      rcases blank with same | same
      · exact .inl same
      · exact .inr (.inl same)
    · intro _
      exact ⟨.null, rfl, none⟩
  next full =>
    have full : ¬(status = 204 ∨ body = []) := by simpa using full
    rw [or_iff_right fun same => full (.inl same), or_iff_right fun same => full (.inr same)]
    rcases Json.parse (Text.Utf8.decode body).toList with (_ | _ | _) | value <;> simp

private theorem replyOf_accepted (name : String) {outcome : Http.Outcome} {reads : Value → Prop} (none : reads .null)
    (accepted : outcome.isAccepted = true) :
    (∃ value, replyOf name outcome = .ok value ∧ reads value) ↔ outcome.Legible reads := by
  cases outcome with
  | answered status body =>
    have below : status < 400 := by simpa [Http.Outcome.isAccepted] using accepted
    have fine : isOk status = true := by simp [isOk]; omega
    simp only [replyOf, fine, ↓reduceIte]
    exact bodyOf_ok_iff name none
  | _ => cases accepted

private theorem replyOf_refused (name : String) {outcome : Http.Outcome} (refused : outcome.isRefused = true) :
    ∃ problem, replyOf name outcome = .error (.problem problem) ∧ problem.family = .metal outcome.status? := by
  cases outcome with
  | answered status body =>
    have range : 400 ≤ status ∧ status < 600 := by simpa [Http.Outcome.isRefused] using refused
    have failed : isOk status = false := by simp [isOk, range]
    simp only [replyOf, failed, Bool.false_eq_true, ↓reduceIte]
    exact ⟨_, rfl, rfl⟩
  | failed => exact ⟨_, rfl, rfl⟩
  | broken => cases refused

theorem removed_ok_iff {assignmentId : String} {removal : Http.Outcome} :
    removed assignmentId removal = .ok () ↔
      ∃ value, replyOf (callName .delete s!"/ips/{assignmentId}") removal = .ok value := by
  unfold removed
  cases replyOf (callName .delete s!"/ips/{assignmentId}") removal <;> simp [Except.map]

private theorem replyOf_odd (name : String) {status : Int} {body : List UInt8}
    (unaccepted : (Http.Outcome.answered status body).isAccepted = false)
    (unrefused : (Http.Outcome.answered status body).isRefused = false) :
    replyOf name (.answered status body) = bodyOf name status body := by
  have above : 400 ≤ status := by simpa [Http.Outcome.isAccepted] using unaccepted
  have beyond : 600 ≤ status := by simpa [Http.Outcome.isRefused, above] using unrefused
  have fine : isOk status = true := by simp [isOk, beyond]
  simp only [replyOf, fine, ↓reduceIte]

/-- A reply to a removal is clear exactly if the move goes on if and only if it was accepted. -/
theorem isClearRemoval_iff {assignmentId : String} {removal : Http.Outcome} :
    removal.IsClearRemoval ↔ (removed assignmentId removal = .ok () ↔ removal.isAccepted = true) := by
  rw [removed_ok_iff]
  generalize callName .delete s!"/ips/{assignmentId}" = name
  unfold Http.Outcome.IsClearRemoval
  cases accepted : removal.isAccepted with
  | true =>
    have read := @replyOf_accepted name removal (fun _ => True) trivial accepted
    simpa using read.symm
  | false =>
    simp only [Bool.false_eq_true, ↓reduceIte, iff_false]
    cases refused : removal.isRefused with
    | true =>
      obtain ⟨problem, failed, -⟩ := replyOf_refused name refused
      simp [failed]
    | false =>
      cases removal with
      | failed => cases refused
      | broken => simp [Http.Outcome.Legible, replyOf]
      | answered status body =>
        have read := @bodyOf_ok_iff name status body (fun _ => True) trivial
        simp only [and_true] at read
        simp [replyOf_odd name accepted refused, read]

private theorem bodyOf_problem {name : String} {status : Int} {body : List UInt8} {problem : Problem}
    (failed : bodyOf name status body = .error (.problem problem)) : problem.family = .metal none := by
  unfold bodyOf at failed
  split at failed
  · cases failed
  · split at failed <;> cases failed
    rfl

private theorem given_of_reply {device address : String} {giving : Http.Outcome} {answer : Value}
    (read : replyOf (callName .post s!"/devices/{device}/ips") giving = .ok answer) :
    given device address giving = (assignmentIn device address answer).mapError .crash := by
  unfold given
  rw [read]
  rfl

private theorem given_of_failure {device address : String} {giving : Http.Outcome} {failure : Failure}
    (read : replyOf (callName .post s!"/devices/{device}/ips") giving = .error failure) :
    given device address giving = .error failure := by
  unfold given
  rw [read]
  rfl

end Metal.Client

namespace Failover

variable {client : Metal.Client} {limits : Limits} {reservation : Reservation} {assignment : Assignment}
  {eipUrl : String}
  {nodes : List (Option Cluster.Node)} {acts : List Act} {result : Except Failure Move}

theorem Search.outcomes {port : Net.Port} {finding : Finding} (searched : Search limits port eipUrl nodes acts finding)
    {method : Http.Method} (changing : method ≠ .get) : Act.outcomes method acts = [] := by
  apply List.filterMap_eq_nil_iff.mpr
  intro act member
  rcases searched.lookups act member with ⟨_, _, rfl⟩ | ⟨_, _, _, rfl⟩
  · rfl
  · simp [Health.request, changing.symm]

/-- The changing requests of a failover: none, or a removal, and the making of an assignment once that is read
as done. -/
theorem exchange (bound : reservation.assignments = [assignment])
    (done : Job.Does (client.connect (run limits nodes reservation eipUrl)) acts result) :
    Act.outcomes .delete acts = [] ∧ Act.outcomes .post acts = [] ∨
      ∃ removal, Act.outcomes .delete acts = [removal] ∧
        match removed assignment.id removal with
        | .error failure => Act.outcomes .post acts = [] ∧ result = .error failure
        | .ok () => ∃ giving device made, Act.outcomes .post acts = [giving] ∧
          result = ((given device reservation.address giving).map fun _ => made).mapError
            (incomplete reservation device) := by
  -- All acts before the move only read, so the changing requests are those that the client makes of the move.
  obtain ⟨before, alone, served⟩ := Metal.Client.does_connect.mp done
  obtain ⟨ports, rest, rfl, later⟩ := does_run alone
  obtain ⟨after, rfl, serving⟩ := (Metal.Client.served_plain rfl).mp served
  have single : reservation.assignments.length ≤ 1 := by simp [bound]
  split at later
  · obtain ⟨rfl, -⟩ := later
    obtain rfl := Metal.Client.served_nil.mp serving
    exact .inl ⟨rfl, rfl⟩
  rw [if_neg (by omega)] at later
  obtain ⟨sought, finding, closing, rfl, searched, settled⟩ := later
  obtain ⟨looked, moved, rfl, looking, moving⟩ := Metal.Client.served_append.mp serving
  have others : ∀ act ∈ sought, act.request.isMetal = false := by
    intro act member
    rcases searched.lookups act member with ⟨_, _, rfl⟩ | ⟨_, _, _, rfl⟩ <;> rfl
  obtain rfl := (Metal.Client.served_others others).mp looking
  have shown (method : Http.Method) (changing : method ≠ .get) :
      Act.outcomes method (⟨.ports, ports⟩ :: (looked ++ moved)) = Act.outcomes method moved := by
    change Act.outcomes method (looked ++ moved) = _
    rw [Act.outcomes_append, searched.outcomes changing, List.nil_append]
  rw [shown .delete nofun, shown .post nofun]
  cases finding with
  | lost | nothing =>
    obtain ⟨rfl, -⟩ := settled
    obtain rfl := Metal.Client.served_nil.mp moving
    exact .inl ⟨rfl, rfl⟩
  | found node address =>
    obtain ⟨reply, rest, rfl, handed⟩ := does_handOver.mp settled
    obtain ⟨after, rfl, handing⟩ := (Metal.Client.served_plain rfl).mp moving
    have told (method : Http.Method) :
        Act.outcomes method (look limits node reply :: after) = Act.outcomes method after := rfl
    rw [told, told]
    cases named : Instance.deviceIn node reply with
    | error failure =>
      simp only [named] at handed
      obtain ⟨rfl, -⟩ := handed
      obtain rfl := Metal.Client.served_nil.mp handing
      exact .inl ⟨rfl, rfl⟩
    | ok device =>
      simp only [named] at handed
      obtain ⟨changed, move, rfl⟩ := handed
      right
      rcases (does_move_bound bound).mp move with ⟨failure, rfl, rfl⟩ | ⟨reply, rfl, rfl⟩
      · obtain ⟨asked, after, rfl, performed, closed⟩ := Metal.Client.served_metal.mp handing
        obtain rfl := Metal.Client.served_nil.mp closed
        obtain ⟨removal, rfl, removing⟩ := Metal.Client.does_unassign.mp performed
        refine ⟨removal, rfl, ?_⟩
        rw [← removing]
        exact ⟨rfl, rfl⟩
      · obtain ⟨asked, after, rfl, performed, closing⟩ := Metal.Client.served_metal.mp handing
        obtain ⟨removal, rfl, removing⟩ := Metal.Client.does_unassign.mp performed
        obtain ⟨asked, after, rfl, performed, closed⟩ := Metal.Client.served_metal.mp closing
        obtain rfl := Metal.Client.served_nil.mp closed
        obtain ⟨giving, rfl, rfl⟩ := Metal.Client.does_assign.mp performed
        refine ⟨removal, rfl, ?_⟩
        rw [← removing]
        refine ⟨giving, device, ⟨node, address, device, some assignment.id⟩, rfl, ?_⟩
        cases given device reservation.address giving <;> rfl

/-- What a reply to the making of an assignment should show as: a move if it was accepted, and else a move that
is left half done, with the status of the reply. -/
def Shows (giving : Http.Outcome) (result : Except Failure Move) : Prop :=
  if giving.isAccepted then ∃ move, result = .ok move
  else ∃ problem, result = .error (.problem problem) ∧ problem.family = .moveIncomplete giving.status?

theorem shows_iff {giving : Http.Outcome} (replied : ∀ text, giving ≠ .broken text) {device : String} {made : Move} :
    Shows giving
        (((given device reservation.address giving).map fun _ => made).mapError (incomplete reservation device)) ↔
      giving.IsClearGiving := by
  unfold Shows Http.Outcome.IsClearGiving
  cases accepted : giving.isAccepted with
  | true =>
    simp only [↓reduceIte]
    rw [← Metal.Client.replyOf_accepted (Metal.Client.callName .post s!"/devices/{device}/ips") (by nofun) accepted]
    cases read : replyOf (Metal.Client.callName .post s!"/devices/{device}/ips") giving with
    | error failure =>
      rw [Metal.Client.given_of_failure read]
      simp [Except.map]
    | ok answer =>
      rw [Metal.Client.given_of_reply read]
      have parsed := @Metal.Client.assignmentIn_ok_iff device reservation.address answer
      cases assigned : Metal.Client.assignmentIn device reservation.address answer <;>
        simpa [assigned, Except.map] using parsed
  | false =>
    simp only [Bool.false_eq_true, ↓reduceIte]
    cases refused : giving.isRefused with
    | true =>
      obtain ⟨problem, read, family⟩ :=
        Metal.Client.replyOf_refused (Metal.Client.callName .post s!"/devices/{device}/ips") refused
      rw [Metal.Client.given_of_failure read]
      refine iff_of_true ⟨Problem.moveIncomplete reservation.address device problem, ?_, ?_⟩ rfl
      · simp [Except.map, incomplete, family, Family.isMetal]
      · simp [Problem.moveIncomplete, family, Family.status?]
    | false =>
      -- An answer from 600 on is read as done, and what can then go wrong says nothing of its status.
      refine iff_of_false ?_ Bool.false_ne_true
      rintro ⟨problem, shown, family⟩
      cases giving with
      | failed => cases refused
      | broken text => exact replied text rfl
      | answered status body =>
        have odd := Metal.Client.replyOf_odd (Metal.Client.callName .post s!"/devices/{device}/ips") accepted refused
        cases read : bodyOf (Metal.Client.callName .post s!"/devices/{device}/ips") status body with
        | ok answer =>
          rw [Metal.Client.given_of_reply (odd.trans read)] at shown
          cases parsed : Metal.Client.assignmentIn device reservation.address answer <;>
            simp [parsed, Except.map, incomplete] at shown
        | error failure =>
          rw [Metal.Client.given_of_failure (odd.trans read)] at shown
          cases failure with
          | crash crash => cases shown
          | problem cause =>
            have unnumbered := Metal.Client.bodyOf_problem read
            simp only [Except.map, mapError_error, incomplete, unnumbered, Family.isMetal, ↓reduceIte] at shown
            cases shown
            simp [Problem.moveIncomplete, unnumbered, Family.status?, Http.Outcome.status?] at family

/-- An exchange shows in the result of a failover: another assignment is asked for exactly if the removal was
accepted, and after that the result tells what came of it. -/
def Faithful (acts : List Act) (result : Except Failure Move) : Prop :=
  ∀ removal ∈ Act.outcomes .delete acts,
    (Act.outcomes .post acts ≠ [] ↔ removal.isAccepted = true) ∧
      (removal.isAccepted = true → ∀ giving ∈ Act.outcomes .post acts, Shows giving result)

/-- The exchange of a move shows in its result exactly if both replies are clear. -/
theorem faithful_iff_clear (bound : reservation.assignments = [assignment])
    (done : Job.Does (client.connect (run limits nodes reservation eipUrl)) acts result)
    (replied : ∀ giving ∈ Act.outcomes .post acts, ∀ text, giving ≠ .broken text) :
    Faithful acts result ↔
      (∀ removal ∈ Act.outcomes .delete acts, removal.IsClearRemoval) ∧
        ∀ giving ∈ Act.outcomes .post acts, giving.IsClearGiving := by
  unfold Faithful
  rcases exchange bound done with ⟨unasked, unposted⟩ | ⟨removal, asked, later⟩
  · simp [unasked, unposted]
  · rw [asked, List.forall_mem_singleton, List.forall_mem_singleton, @Metal.Client.isClearRemoval_iff assignment.id]
    cases removing : removed assignment.id removal with
    | error failure =>
      simp only [removing] at later
      simp [later.1]
    | ok _ =>
      simp only [removing] at later
      obtain ⟨giving, device, made, posted, rfl⟩ := later
      rw [posted, List.forall_mem_singleton, List.forall_mem_singleton]
      rw [posted, List.forall_mem_singleton] at replied
      rw [shows_iff replied]
      simp only [ne_eq, List.cons_ne_self, not_false_eq_true, true_iff]
      constructor
      · exact fun ⟨accepted, clear⟩ => ⟨accepted, clear accepted⟩
      · exact fun ⟨accepted, clear⟩ => ⟨accepted, fun _ => clear⟩

def replying (removal giving : Http.Outcome) : World where
  cluster := { nodes := [some ⟨some { name := some "first" }, some "packet://device",
    [some ⟨"InternalIP", "10.0.0.1"⟩]⟩] }
  script := .byTarget [("GET https://10.0.0.1:6443/healthz", [.answered 200 []]),
    ("DELETE https://api/ips/old", [removal]), ("POST https://api/devices/device/ips", [giving])]
  ports := ⟨.number 6443, .number 6443, true⟩

def movingOnce : Job Move :=
  (Metal.Client.make "key" "https://api" none 1).connect (run ⟨none, none⟩
    [some ⟨some { name := some "first" }, none, []⟩] ⟨"reservation", "1.2.3.4", ["eip"], [⟨"old", none, none⟩]⟩
    "https://1.2.3.4:6443/healthz")

theorem faithful_refused :
    Faithful ((replying (.answered 204 []) (.answered 500 [])).acts movingOnce)
      ((replying (.answered 204 []) (.answered 500 [])).run movingOnce).1 := by
  have asked : Act.outcomes .delete ((replying (.answered 204 []) (.answered 500 [])).acts movingOnce) =
      [.answered 204 []] := by decide +kernel
  have posted : Act.outcomes .post ((replying (.answered 204 []) (.answered 500 [])).acts movingOnce) =
      [.answered 500 []] := by decide +kernel
  have clear := faithful_iff_clear rfl (World.does_acts (replying (.answered 204 []) (.answered 500 [])) movingOnce)
    (by simp [posted])
  rw [clear, asked, posted, List.forall_mem_singleton, List.forall_mem_singleton]
  exact ⟨.inl rfl, rfl⟩

/-- A removal that is answered with a word is done, but not read as done: the address is left without any
assignment. -/
theorem unfaithful_word :
    ¬Faithful ((replying (.answered 200 [79, 75]) (.answered 201 [])).acts movingOnce)
      ((replying (.answered 200 [79, 75]) (.answered 201 [])).run movingOnce).1 := by
  intro faithful
  have asked : Act.outcomes .delete ((replying (.answered 200 [79, 75]) (.answered 201 [])).acts movingOnce) =
      [.answered 200 [79, 75]] := by decide +kernel
  have unposted : Act.outcomes .post ((replying (.answered 200 [79, 75]) (.answered 201 [])).acts movingOnce) = [] := by
    decide +kernel
  have sent := (faithful (.answered 200 [79, 75]) (by simp [asked])).1
  rw [unposted] at sent
  exact sent.mpr rfl rfl

end Failover

end ElasticEndpoint
