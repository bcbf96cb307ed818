import ElasticEndpoint.Proofs.SingleFlight
import ElasticEndpoint.Proofs.MirrorPublished

/-!
The gate to the reservation. Node passes and service passes go on with a reservation only if the listing names one
with at most one assignment; otherwise both stop there for the same reason, and leave everything as it is.
-/

namespace ElasticEndpoint

/-- The calls among some acts, in order. -/
def Act.calls (acts : List Act) : List Act := acts.filter (·.request.isCall)

@[simp]
theorem Act.calls_nil : calls [] = [] := rfl

@[simp]
theorem Act.calls_append (first rest : List Act) : calls (first ++ rest) = calls first ++ calls rest :=
  List.filter_append ..

@[simp]
theorem Act.calls_cons (act : Act) (rest : List Act) :
    calls (act :: rest) = if act.request.isCall then act :: calls rest else calls rest := List.filter_cons ..

namespace Resolver

/-- Why a pass goes no further than to its reservation. -/
inductive Stop where
  | untagged
  | unlisted (failure : Failure)
  | unreserved
  | several (reservation : String) (count : Nat)

/-- What a pass that stops ends in: the word for its outcome, or its failure. -/
def Stop.report : Stop → Except Failure String
  | .untagged => .error (.problem .noTag)
  | .unlisted failure => .error failure
  | .unreserved => .ok "no-reservation"
  | .several reservation count => .error (.problem (.multipleAssignment reservation count))

inductive Stop.Calls (project : String) : Stop → List Act → Prop where
  | untagged : Calls project .untagged []
  | unlisted {failure} : Calls project (.unlisted failure) [.metal (.list project true) (.error failure)]
  | unreserved {reservations} : Calls project .unreserved [.metal (.list project true) (.ok reservations)]
  | several {reservation count reservations} :
      Calls project (.several reservation count) [.metal (.list project true) (.ok reservations)]

/-- The reservation that a listing gives a tag, or why there is none to go on with. -/
def gate (tag : String) (listing : Except Failure Metal.Ledger) : Except Stop Reservation :=
  if tag.isEmpty then .error .untagged
  else
    match listing.map (Reservation.firstWith [tag]) with
    | .error failure => .error (.unlisted failure)
    | .ok none => .error .unreserved
    | .ok (some reservation) =>
      if 1 < reservation.assignments.length then .error (.several reservation.id reservation.assignments.length)
      else .ok reservation

/-- A report that no pass makes which stops after a listing. -/
def Further (report : Except Failure String) : Prop :=
  report ≠ .ok "no-reservation" ∧ ∀ reservation count, report ≠ .error (.problem (.multipleAssignment reservation count))

/-- The acts and the report of a pass as the gate decides on them. -/
inductive Gated (project tag : String) (listing : Except Failure Metal.Ledger) :
    List Act → Except Failure String → Prop where
  | stopped {stop acts} (why : gate tag listing = .error stop) (calls : stop.Calls project acts) :
      Gated project tag listing acts stop.report
  | passed {reservation reservations rest report} (found : gate tag listing = .ok reservation)
      (further : Act.calls rest = [] → Further report) :
      Gated project tag listing (.metal (.list project true) (.ok reservations) :: rest) report

variable {α : Type} {project tag : String} {listing : Except Failure Metal.Ledger} {acts : List Act}
  {report : Except Failure String}

theorem Stop.Calls.all {stop : Stop} (calls : stop.Calls project acts) : Act.calls acts = acts := by
  cases calls <;> rfl

private theorem Stop.Calls.lists {stop : Stop} (calls : stop.Calls project acts) :
    ∀ act ∈ acts, act.request = .metal (.list project true) := by
  cases calls <;> simp

theorem Stop.Calls.unique {stop other : Stop} (first : stop.Calls project acts) (second : other.Calls project acts)
    (same : stop.report = other.report) : stop = other := by
  cases first <;> cases second <;> cases same <;> rfl

/-- What a pass is seen to do tells whether it stopped, and why. -/
theorem Gated.stops_iff (gated : Gated project tag listing acts report) (stop : Stop) :
    report = stop.report ∧ stop.Calls project (Act.calls acts) ↔ gate tag listing = .error stop := by
  cases gated with
  | stopped why calls =>
    rw [calls.all, why]
    constructor
    · rintro ⟨same, others⟩
      rw [calls.unique others same]
    · intro same
      cases same
      exact ⟨rfl, calls⟩
  | @passed reservation reservations rest _ found further =>
    rw [found]
    constructor
    · rintro ⟨rfl, calls⟩
      generalize counted : Act.calls (.metal (.list project true) (.ok reservations) :: rest) = made at calls
      have none (ended : Act.calls rest = []) : Further stop.report := further ended
      change .metal (.list project true) (.ok reservations) :: Act.calls rest = made at counted
      cases calls with
      | untagged => cases counted
      | unlisted => cases (List.cons.inj counted).1
      | unreserved => exact absurd rfl (none (List.cons.inj counted).2).1
      | several => exact absurd rfl ((none (List.cons.inj counted).2).2 _ _)
    · intro impossible
      cases impossible

theorem Gated.calls {stop : Stop} (gated : Gated project tag listing acts report)
    (why : gate tag listing = .error stop) : stop.Calls project acts := by
  cases gated with
  | stopped same calls =>
    rw [why] at same
    cases same
    exact calls
  | passed found _ =>
    rw [why] at found
    cases found

end Resolver

namespace World

def listing (world : World) : Except Failure Metal.Ledger :=
  match (world.metalFaults.next .list).1 with
  | some failure => .error failure
  | none => .ok world.ledger

private theorem listing_answered {world last : World} {project : String} {reply : Except Failure Metal.Ledger} {rest : List Act}
    (answered : Program.Answers answer world (Act.metal (.list project true) reply :: rest) last) :
    reply = world.listing := by
  obtain ⟨replied, -⟩ := Program.answers_cons.mp answered
  unfold listing
  cases reply with
  | ok reservations =>
    obtain ⟨clear, same, -⟩ := answer_metal_ok (.list project true) reservations replied
    rw [show (world.metalFaults.next .list).1 = none from clear, same]
    rfl
  | error failure =>
    obtain ⟨due, -⟩ := answer_metal_error (.list project true) failure replied
    rw [show (world.metalFaults.next .list).1 = some failure from due]

/-- All that both passes could change. -/
structure Kept (before after : World) : Prop where
  cluster : after.cluster = before.cluster
  ledger : after.ledger = before.ledger
  ports : after.ports = before.ports
  guard : after.guard = before.guard
  lastMove : after.lastMove = before.lastMove

theorem Same.kept {first last : World} (same : Same last first) : Kept first last := by
  rw [same.eq]
  exact ⟨rfl, rfl, rfl, rfl, rfl⟩

theorem Kept.trans {first middle last : World} (before : Kept first middle) (after : Kept middle last) :
    Kept first last where
  cluster := after.cluster.trans before.cluster
  ledger := after.ledger.trans before.ledger
  ports := after.ports.trans before.ports
  guard := after.guard.trans before.guard
  lastMove := after.lastMove.trans before.lastMove

private theorem kept_list (project : String) (world : World) :
    Kept world (answer (.metal (.list project true)) world).2 where
  cluster := answer_cluster (by rintro _ _ ⟨⟩) world
  ledger := answer_ledger rfl world
  ports := answer_ports (by rintro _ ⟨⟩) world
  guard := answer_guard (by rintro ⟨⟩) (by rintro ⟨⟩) world
  lastMove := answer_lastMove (by rintro _ ⟨⟩) world

end World

/-- A run of a job goes no further than to its reservation. -/
structure World.Halts {α : Type} (world : World) (job : Job α) (word : α → String) (project : String)
    (stop : Resolver.Stop) : Prop where
  report : (world.run job).1.map word = stop.report
  calls : stop.Calls project (Act.calls (world.acts job))

/-- A run of a job asks for nothing but a listing of the reservations, and changes nothing. -/
structure World.Harmless {α : Type} (world : World) (job : Job α) (project : String) : Prop where
  calls : ∀ act ∈ world.acts job, act.request.isCall = true → act.request = .metal (.list project true)
  kept : World.Kept world (world.run job).2

namespace Resolver

variable {α : Type} {project tag : String} {acts : List Act} {part : Part} {unreserved : α}
  {next : Reservation → Job α} {result : Except Failure α} {world last : World}

theorem Stop.Calls.kept {stop : Stop} (calls : stop.Calls project acts)
    (answered : Program.Answers World.answer world acts last) : World.Kept world last := by
  cases calls with
  | untagged =>
    obtain rfl := Program.answers_nil.mp answered
    exact World.Same.kept rfl
  | _ =>
    obtain ⟨-, closed⟩ := Program.answers_cons.mp answered
    obtain rfl := Program.answers_nil.mp closed
    exact World.kept_list project world

/-- The way through the gate, which both passes take, each with its own end there and its own work after it. -/
theorem does_gate {word : α → String} (named : word unreserved = "no-reservation")
    (done : Job.Does (do
      match ← resolve project [tag] with
      | none => return unreserved
      | some reservation => do
        NodePass.refuseMultiple part reservation
        next reservation) acts result)
    (answered : Program.Answers World.answer world acts last) :
    (∃ stop, gate tag world.listing = .error stop ∧ stop.Calls project acts ∧ result.map word = stop.report) ∨
      ∃ reservation reservations rest, gate tag world.listing = .ok reservation ∧
        reservation.assignments.length ≤ 1 ∧ acts = .metal (.list project true) (.ok reservations) :: rest ∧
          Job.Does (next reservation) rest result := by
  by_cases blank : tag.isEmpty = true
  · obtain ⟨rfl, rfl⟩ := (Job.does_still_bind (does_resolve_untagged blank)).mp done
    exact .inl ⟨.untagged, if_pos blank, .untagged, rfl⟩
  · obtain ⟨reply, rest, rfl, later⟩ := (Job.does_single_bind (does_resolve_tag (by simpa using blank))).mp done
    have same := World.listing_answered answered
    have verdict : gate tag world.listing = _ := if_neg blank
    rw [← same] at verdict ⊢
    cases reply with
    | error failure =>
      obtain ⟨rfl, rfl⟩ := later
      exact .inl ⟨_, verdict, .unlisted, rfl⟩
    | ok reservations =>
      simp only [Except.map] at later verdict
      cases matched : Reservation.firstWith [tag] reservations with
      | none =>
        simp only [matched, Job.does_pure] at later verdict
        obtain ⟨rfl, rfl⟩ := later
        exact .inl ⟨_, verdict, .unreserved, congrArg Except.ok named⟩
      | some reservation =>
        simp only [matched, NodePass.does_refuseMultiple_bind] at later verdict
        by_cases several : 1 < reservation.assignments.length
        · rw [if_pos several] at later verdict
          obtain ⟨rfl, rfl⟩ := later
          exact .inl ⟨_, verdict, .several, rfl⟩
        · rw [if_neg several] at later verdict
          exact .inr ⟨reservation, reservations, rest, verdict, Nat.le_of_not_lt several, rfl, later⟩

private theorem gated_of_does {word : α → String} (named : word unreserved = "no-reservation")
    (further : ∀ reservation rest result, reservation.assignments.length ≤ 1 → Job.Does (next reservation) rest result →
      Act.calls rest = [] → Further (result.map word))
    (done : Job.Does (do
      match ← resolve project [tag] with
      | none => return unreserved
      | some reservation => do
        NodePass.refuseMultiple part reservation
        next reservation) acts result)
    (answered : Program.Answers World.answer world acts last) :
    Gated project tag world.listing acts (result.map word) := by
  rcases does_gate named done answered with
    ⟨stop, why, calls, report⟩ | ⟨reservation, reservations, rest, found, single, rfl, later⟩
  · rw [report]
    exact .stopped why calls
  · exact .passed found (further reservation rest result single later)

end Resolver

namespace ServicePass

open Cluster (Service)
open Resolver (Further)

variable {timeout : Option Duration} {mode : Mode} {services : List (Option Service)} {acts : List Act}

private theorem chosen_error {failure : Failure} (lost : chosen mode services = .error failure) (reservation : String)
    (count : Int) : failure ≠ .problem (.multipleAssignment reservation count) := by
  induction services with
  | nil =>
    unfold chosen at lost
    split at lost <;> cases lost
    rintro ⟨⟩
  | cons service services ih =>
    obtain _ | ⟨_ | metadata, spec, status, fields⟩ := service
    · cases lost
      rintro ⟨⟩
    · cases lost
      rintro ⟨⟩
    unfold chosen at lost
    dsimp only at lost
    split at lost
    · split at lost <;> cases lost <;> rintro ⟨⟩
    · exact ih lost

private theorem further_mirrorFirst {eip : String} {result : Except Failure Outcome}
    (done : Job.Does (mirrorFirst timeout mode eip services) acts result) (silent : Act.calls acts = []) :
    Further (result.map Outcome.word) := by
  have steps := does_mirrorFirst.mp done
  rcases picked : chosen mode services with failure | _ | ⟨first, others⟩
  · rw [picked] at steps
    obtain ⟨-, rfl⟩ := steps
    exact ⟨nofun, fun reservation count same => chosen_error picked reservation count (Except.error.inj same)⟩
  · rw [picked] at steps
    obtain ⟨-, rfl⟩ := steps
    exact ⟨fun same => absurd (Except.ok.inj same) (by decide), nofun⟩
  · rw [picked] at steps
    obtain ⟨mirrored, mirroring, rfl⟩ := steps
    have steps := does_mirror.mp mirroring
    cases points : targetIn first with
    | error failure =>
      rw [points] at steps
      obtain ⟨-, rfl⟩ := steps
      refine ⟨nofun, fun reservation count same => ?_⟩
      cases same
      unfold targetIn at points
      split at points <;> cases points
    | ok target =>
      rw [points] at steps
      obtain ⟨before, rest, rfl, later⟩ := steps
      have called : ∃ reply more, rest = .cluster (.readEndpoints serverName serverSpace) timeout reply :: more := by
        rcases Job.does_bind.mp later with ⟨failure, -, part⟩ | ⟨value, _, others, rfl, part, -⟩
        · obtain ⟨reply, more, same, -⟩ := does_mirrorEndpoints.mp part
          exact ⟨reply, more, same⟩
        · obtain ⟨reply, more, rfl, -⟩ := does_mirrorEndpoints.mp part
          exact ⟨reply, more ++ others, rfl⟩
      obtain ⟨reply, more, rfl⟩ := called
      cases silent

private theorem gated_run {world last : World} {setup : Setup} {result : Except Failure Outcome}
    (done : Job.Does (run setup services mode) acts result) (answered : Program.Answers World.answer world acts last) :
    Resolver.Gated setup.project setup.tag world.listing acts (result.map Outcome.word) :=
  Resolver.gated_of_does rfl (fun _ _ _ _ later silent => further_mirrorFirst later silent) done answered

end ServicePass

namespace Failover

open Resolver (Further)

variable {limits : Limits} {reservation : Reservation} {eipUrl : String} {nodes : List (Option Cluster.Node)}
  {acts : List Act}

private theorem silent_run {result : Except Failure Move} (done : Job.Does (run limits nodes reservation eipUrl) acts result)
    (single : reservation.assignments.length ≤ 1) (silent : Act.calls acts = []) :
    ∃ failure, result = .error failure ∧
      ∀ reservation count, failure ≠ .problem (.multipleAssignment reservation count) := by
  obtain ⟨ports, rest, rfl, later⟩ := does_run done
  rw [if_neg (Nat.not_lt.mpr single)] at later
  split at later
  · exact ⟨_, later.2, nofun⟩
  · obtain ⟨sought, finding, closing, rfl, search, settled⟩ := later
    cases search with
    | spent => exact ⟨_, settled.2, nofun⟩
    | blank missing => exact ⟨_, settled.2, nofun⟩
    | _ => cases silent

end Failover

namespace NodePass

open Resolver (Further)

variable {setup : Setup} {nodes : List (Option Cluster.Node)} {acts : List Act}

private theorem controlPlaneOf_error {failure : Failure} (lost : controlPlaneOf nodes = .error failure) :
    failure = .crash .missingPart := by
  induction nodes with
  | nil => cases lost
  | cons node nodes ih =>
    cases node with
    | none =>
      cases lost
      rfl
    | some node =>
      unfold controlPlaneOf at lost
      split at lost
      · cases others : controlPlaneOf nodes with
        | error other =>
          rw [others] at lost ih
          cases lost
          exact ih rfl
        | ok rest =>
          rw [others] at lost
          cases lost
      · exact ih lost

private theorem further_check {reservation : Reservation} {eipUrl : String} {result : Except Failure Outcome}
    (single : reservation.assignments.length ≤ 1)
    (done : Job.Does (do
      if ← checkElastic setup reservation eipUrl then return .healthy
      else
        let candidates ← controlPlane nodes
        startFailover setup (candidates.map some) reservation eipUrl) acts result)
    (silent : Act.calls acts = []) : Further (result.map Outcome.word) := by
  rw [Job.does_bind] at done
  simp only [does_checkElastic] at done
  by_cases free : reservation.assignments = []
  · simp only [free, ↓reduceIte] at done
    rcases done with ⟨failure, rfl, -, impossible⟩ | ⟨healthy, _, more, rfl, ⟨rfl, same⟩, later⟩
    · cases impossible
    cases same
    simp only [Bool.false_eq_true, ↓reduceIte] at later
    have picked := (Job.does_still_bind does_controlPlane).mp later
    cases members : controlPlaneOf nodes with
    | error failure =>
      rw [members] at picked
      obtain ⟨-, rfl⟩ := picked
      rw [controlPlaneOf_error members]
      exact ⟨nofun, nofun⟩
    | ok candidates =>
      rw [members] at picked
      obtain ⟨tried, moved, failover, rfl, rfl⟩ := does_startFailover.mp picked
      have both : Act.calls tried = [] ∧ Act.calls (remembered moved) = [] := by simpa using silent
      obtain ⟨failure, rfl, other⟩ := Failover.silent_run failover single both.1
      exact ⟨nofun, fun reservation count same => other reservation count (Except.error.inj same)⟩
  · simp only [free, ↓reduceIte] at done
    rcases done with ⟨failure, -, outcome, rfl, -⟩ | ⟨healthy, _, more, rfl, ⟨outcome, rfl, -⟩, -⟩ <;> cases silent

/-- A pass that finds the guard idle and knows the port comes to the gate, and leaves the guard after it. -/
theorem gated_run {world last : World} {result : Except Failure Outcome} (idle : world.guard = .idle)
    (known : world.ports.desired.isUnknown = false) (done : Job.Does (run setup nodes) acts result)
    (answered : Program.Answers World.answer world acts last) :
    ∃ within, acts = ⟨.enterGuard, true⟩ :: ⟨.ports, world.ports⟩ :: (within ++ [⟨.leaveGuard, true⟩]) ∧
      Resolver.Gated setup.project setup.tag world.listing within (result.map Outcome.word) ∧
      ∀ stop, Resolver.gate setup.tag world.listing = .error stop → World.Kept world last := by
  rcases does_run.mp done with ⟨state, rfl, -⟩ | ⟨within, middle, left, rfl, entered, rfl⟩
  · obtain ⟨refused, -⟩ := Program.answers_cons.mp answered
    simp [World.answer, Guard.tryEnter, idle] at refused
  have work : ∀ act ∈ within, act.request.isNodeWork = true := Job.uses_acts (work_inside setup nodes) entered
  obtain ⟨rfl, ended, told, rfl⟩ :=
    World.answers_guarded (fun act member => Request.unguarded_of_work (work act member)) answered
  unfold inside at entered
  obtain ⟨ports, rest, rfl, looked⟩ := Job.does_ports_bind.mp entered
  obtain ⟨seen, toldRest⟩ := Program.answers_cons.mp told
  obtain rfl : ports = world.ports := seen
  rw [if_neg (by simp [known])] at looked
  have gated := Resolver.gated_of_does rfl (fun _ _ _ single later silent => further_check single later silent) looked toldRest
  refine ⟨rest, rfl, gated, fun stop why => ?_⟩
  have kept := (gated.calls why).kept toldRest
  exact ⟨kept.cluster, kept.ledger, kept.ports, idle.symm, kept.lastMove⟩

section

variable {world : World} (idle : world.guard = .idle) (known : world.ports.desired.isUnknown = false)

include idle known

theorem halts_iff (stop : Resolver.Stop) : world.Halts (run setup nodes) Outcome.word setup.project stop ↔
    Resolver.gate setup.tag world.listing = .error stop := by
  obtain ⟨last, answered, -⟩ := world.run_answers (run setup nodes)
  obtain ⟨within, shape, gated, -⟩ := gated_run idle known (world.does_acts _) answered
  have calls : Act.calls (world.acts (run setup nodes)) = Act.calls within := by
    rw [shape]
    simp [Request.isCall]
  rw [← gated.stops_iff stop, ← calls]
  exact ⟨fun halts => ⟨halts.report, halts.calls⟩, fun ⟨report, calls⟩ => ⟨report, calls⟩⟩

private theorem harmless_stopped {stop : Resolver.Stop} (why : Resolver.gate setup.tag world.listing = .error stop) :
    world.Harmless (run setup nodes) setup.project := by
  obtain ⟨last, answered, same⟩ := world.run_answers (run setup nodes)
  obtain ⟨within, shape, gated, kept⟩ := gated_run idle known (world.does_acts _) answered
  constructor
  · rw [shape]
    intro act member call
    have calls := gated.calls why
    have inside : act ∈ within := by
      rcases List.mem_cons.mp member with rfl | member
      · cases call
      rcases List.mem_cons.mp member with rfl | member
      · cases call
      rcases List.mem_append.mp member with inside | member
      · exact inside
      · cases List.mem_singleton.mp member
        cases call
    exact calls.lists act inside
  · exact (kept stop why).trans same.kept

end

end NodePass

namespace ServicePass

open Cluster (Service)
open Resolver (gate)

def Lacks (services : List (Option Service)) : Prop :=
  ∀ place ∈ services, ∃ service metadata, place = some service ∧ service.metadata = some metadata ∧
    isServer (some metadata) = false

/-- The first service of the server's name has no ports. -/
def Portless (services : List (Option Service)) : Prop :=
  ∃ before server after, services = before ++ some server :: after ∧ Lacks before ∧
    isServer server.metadata = true ∧ (server.spec.bind (·.ports)).getD [] = []

variable {setup : Setup} {mode : Mode} {services : List (Option Service)} {acts : List Act} {world last : World}

theorem chosen_append {before : List (Option Service)} (lacks : Lacks before) (rest : List (Option Service)) :
    chosen mode (before ++ rest) = chosen mode rest := by
  induction before with
  | nil => rfl
  | cons place before ih =>
    obtain ⟨⟨_, spec, status, fields⟩, metadata, rfl, rfl, other⟩ := lacks place List.mem_cons_self
    rw [List.cons_append, ← ih fun place member => lacks place (List.mem_cons_of_mem _ member)]
    conv => lhs; unfold chosen
    refine if_neg ?_
    rw [Bool.and_comm]
    exact Bool.eq_false_iff.mp other

private theorem chosen_lacking (lacks : Lacks services) :
    chosen mode services = if mode = .sync then .error (.problem (.serviceNotFound serverPath)) else .ok none := by
  rw [← List.append_nil services, chosen_append lacks]
  rfl

private theorem chosen_portless (portless : Portless services) :
    chosen mode services = .error (.problem (.serviceWithoutPorts serverPath)) := by
  obtain ⟨before, ⟨metadata, spec, status, fields⟩, after, rfl, lacks, server, none⟩ := portless
  rw [chosen_append lacks]
  cases metadata with
  | none => cases server
  | some metadata =>
    unfold chosen
    dsimp only
    rw [if_pos (by rw [Bool.and_comm]; exact server), none]

theorem does_run_gate {result : Except Failure Outcome} (done : Job.Does (run setup services mode) acts result)
    (answered : Program.Answers World.answer world acts last) :
    (∃ stop, gate setup.tag world.listing = .error stop ∧ stop.Calls setup.project acts ∧
      result.map Outcome.word = stop.report) ∨
      ∃ reservation reservations rest, gate setup.tag world.listing = .ok reservation ∧
        reservation.assignments.length ≤ 1 ∧ acts = .metal (.list setup.project true) (.ok reservations) :: rest ∧
          Job.Does (mirrorFirst setup.timeout mode reservation.address services) rest result :=
  Resolver.does_gate rfl done answered

private theorem unserved_run {result : Except Failure Outcome} (lost : ∀ found, chosen mode services ≠ .ok (some found))
    (done : Job.Does (run setup services mode) acts result) (answered : Program.Answers World.answer world acts last) :
    (∃ stop : Resolver.Stop, stop.Calls setup.project acts) ∧
      ∀ reservation, gate setup.tag world.listing = .ok reservation →
        result = (chosen mode services).map fun _ => .notFound := by
  rcases does_run_gate done answered with ⟨stop, why, calls, -⟩ | ⟨_, reservations, rest, -, -, rfl, later⟩
  · rw [why]
    exact ⟨⟨stop, calls⟩, nofun⟩
  · have settled := does_mirrorFirst.mp later
    rcases picked : chosen mode services with failure | _ | found
    · rw [picked] at settled
      obtain ⟨rfl, rfl⟩ := settled
      exact ⟨⟨_, .unreserved⟩, fun _ _ => rfl⟩
    · rw [picked] at settled
      obtain ⟨rfl, rfl⟩ := settled
      exact ⟨⟨_, .unreserved⟩, fun _ _ => rfl⟩
    · exact absurd picked (lost found)

private theorem harmless_calls {α : Type} {job : Job α} {project : String} {stop : Resolver.Stop}
    (calls : stop.Calls project (world.acts job)) : world.Harmless job project := by
  obtain ⟨last, answered, same⟩ := world.run_answers job
  exact ⟨fun act member _ => calls.lists act member, (calls.kept answered).trans same.kept⟩

/-- The two passes at the gate to the reservation, and the service pass at the service that it is to mirror. -/
structure GatesAgree (world : World) (setup : Setup) (services : List (Option Service)) (mode : Mode)
    (other : NodePass.Setup) (nodes : List (Option Cluster.Node)) : Prop where
  alike : ∀ stop, world.Halts (run setup services mode) Outcome.word setup.project stop ↔
    world.Halts (NodePass.run other nodes) NodePass.Outcome.word setup.project stop
  verdict : ∀ stop, world.Halts (run setup services mode) Outcome.word setup.project stop ↔
    gate setup.tag world.listing = .error stop
  harmless : ∀ stop, gate setup.tag world.listing = .error stop →
    world.Harmless (run setup services mode) setup.project ∧ world.Harmless (NodePass.run other nodes) setup.project
  lacking : Lacks services → world.Harmless (run setup services mode) setup.project ∧
    ∀ reservation, gate setup.tag world.listing = .ok reservation →
      (world.run (run setup services mode)).1 =
        if mode = .sync then .error (.problem (.serviceNotFound serverPath)) else .ok .notFound
  portless : Portless services → world.Harmless (run setup services mode) setup.project ∧
    ∀ reservation, gate setup.tag world.listing = .ok reservation →
      (world.run (run setup services mode)).1 = .error (.problem (.serviceWithoutPorts serverPath))

theorem halts_iff (stop : Resolver.Stop) : world.Halts (run setup services mode) Outcome.word setup.project stop ↔
    gate setup.tag world.listing = .error stop := by
  obtain ⟨last, answered, -⟩ := world.run_answers (run setup services mode)
  have decided := (gated_run (world.does_acts _) answered).stops_iff stop
  exact ⟨fun halts => decided.mp ⟨halts.report, halts.calls⟩, fun why => ⟨(decided.mpr why).1, (decided.mpr why).2⟩⟩

private theorem harmless_stopped {stop : Resolver.Stop} (why : gate setup.tag world.listing = .error stop) :
    world.Harmless (run setup services mode) setup.project := by
  obtain ⟨last, answered, -⟩ := world.run_answers (run setup services mode)
  exact harmless_calls ((gated_run (world.does_acts _) answered).calls why)

private theorem harmless_unserved (lost : ∀ found, chosen mode services ≠ .ok (some found)) :
    world.Harmless (run setup services mode) setup.project ∧
      ∀ reservation, gate setup.tag world.listing = .ok reservation →
        (world.run (run setup services mode)).1 = (chosen mode services).map fun _ => .notFound := by
  obtain ⟨last, answered, -⟩ := world.run_answers (run setup services mode)
  obtain ⟨⟨stop, calls⟩, ends⟩ := unserved_run lost (world.does_acts _) answered
  exact ⟨harmless_calls calls, ends⟩

/-- With an idle guard and a known port, both passes stop at the reservation in the same cases and report the same, and
stopping there is harmless, as it is not to find the service. -/
theorem gates_agree (world : World) (idle : world.guard = .idle) (known : world.ports.desired.isUnknown = false)
    (setup : Setup) (services : List (Option Service)) (mode : Mode) (policy : TransportPolicy)
    (limits : Failover.Limits) (nodes : List (Option Cluster.Node)) :
    GatesAgree world setup services mode ⟨setup.project, setup.tag, policy, limits⟩ nodes := by
  constructor
  · intro stop
    have other : world.Halts (NodePass.run ⟨setup.project, setup.tag, policy, limits⟩ nodes) NodePass.Outcome.word
        setup.project stop ↔ gate setup.tag world.listing = .error stop := NodePass.halts_iff idle known stop
    exact (halts_iff stop).trans other.symm
  · exact halts_iff
  · exact fun stop why => ⟨harmless_stopped why, NodePass.harmless_stopped idle known why⟩
  · intro lacks
    have picked : chosen mode services = _ := chosen_lacking lacks
    have lost : ∀ found, chosen mode services ≠ .ok (some found) := by
      rw [picked]
      split <;> exact nofun
    obtain ⟨harmless, ends⟩ : world.Harmless (run setup services mode) _ ∧ _ := harmless_unserved lost
    refine ⟨harmless, fun reservation found => ?_⟩
    rw [ends reservation found, picked]
    split <;> rfl
  · intro portless
    have picked : chosen mode services = _ := chosen_portless portless
    obtain ⟨harmless, ends⟩ : world.Harmless (run setup services mode) _ ∧ _ :=
      harmless_unserved (by rw [picked]; exact nofun)
    refine ⟨harmless, fun reservation found => ?_⟩
    rw [ends reservation found, picked]
    rfl

def heldTwice : World where
  ports := .configured (.number 443)
  ledger := [⟨"reservation", "1.2.3.4", ["eip"], [⟨"first", none, none⟩, ⟨"second", none, none⟩]⟩]

theorem gates_agree_heldTwice : heldTwice.guard = .idle ∧ heldTwice.ports.desired.isUnknown = false ∧
    gate "eip" heldTwice.listing = .error (.several "reservation" 2) ∧
      GatesAgree heldTwice ⟨"project", "eip", none⟩ [some plainServer] .sync
        ⟨"project", "eip", .error, ⟨none, none⟩⟩ [] :=
  ⟨rfl, rfl, rfl, gates_agree heldTwice rfl rfl ⟨"project", "eip", none⟩ _ _ _ _ _⟩

end ServicePass

end ElasticEndpoint
