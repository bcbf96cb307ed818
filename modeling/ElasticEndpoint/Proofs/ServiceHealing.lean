import ElasticEndpoint.Proofs.ServiceWrites
import ElasticEndpoint.Proofs.Quiet

/-!
Healing of the mirror. However far a service pass came before it failed, the next pass that meets no fault
leaves the same ports, endpoints and services as if that one had been the only pass.
-/

namespace ElasticEndpoint

theorem Ports.observe_observe (ports : Ports) (port : Net.Port) :
    (ports.observe port).observe port = ports.observe port := by
  unfold observe
  by_cases unknown : ports.desired.isUnknown = true <;> simp [unknown]

/-- What passes over services write. -/
structure Publication where
  ports : Ports
  endpoints : List (Option Cluster.Endpoints)
  services : List (Option Cluster.Service)

namespace World

def publication (world : World) : Publication := ⟨world.ports, world.cluster.endpoints, world.cluster.services⟩

theorem Same.publication {first last : World} (same : Same first last) : first.publication = last.publication := by
  rw [same.eq]
  rfl

end World

namespace ServicePass

open Cluster (Service Endpoints ServicePort findFirst put)
open World (answer Calm)

/-- What a pass is about: the elastic address, the ports of the server's service and the port that the first one
points at. -/
structure Plan where
  eip : String
  first : ServicePort
  others : List (Option ServicePort)
  target : Net.Port

/-- What decides on the plan of a pass: the listing of reservations and the services handed over. -/
structure Fits (setup : Setup) (services : List (Option Service)) (mode : Mode) (ledger : Metal.Ledger) (plan : Plan) :
    Prop where
  tagged : setup.tag.isEmpty = false
  matched : ∃ reservation, Reservation.firstWith [setup.tag] ledger = some reservation ∧
    reservation.assignments.length ≤ 1 ∧ reservation.address = plan.eip
  chosen : chosen mode services = .ok (some (plan.first, plan.others))
  target : targetIn plan.first = .ok plan.target

namespace Plan

def ports (plan : Plan) (known : Ports) : List (Option ServicePort) :=
  some { plan.first with port := (known.observe plan.target).desired } :: plan.others

/-- All is done that a plan asks for. -/
structure Completes (plan : Plan) (before after : Publication) : Prop where
  ports : after.ports = before.ports.observe plan.target
  endpoints : EndpointsTo before.endpoints after.endpoints
  services : ∃ written, put (isMirror ·.metadata) (renewService plan.eip (plan.ports before.ports))
      before.services = some written ∧
    put (isMirror ·.metadata) (Option.map (published plan.eip)) written = some after.services

/-- How far a pass can come. -/
inductive Reaches (plan : Plan) (before after : Publication) : Prop where
  | untouched (ports : after.ports = before.ports) (endpoints : after.endpoints = before.endpoints)
      (services : after.services = before.services)
  | noted (ports : after.ports = before.ports.observe plan.target)
      (endpoints : after.endpoints = before.endpoints)
      (services : after.services = before.services)
  | repeated (ports : after.ports = before.ports.observe plan.target)
      (endpoints : EndpointsTo before.endpoints after.endpoints)
      (services : after.services = before.services)
  | renewed (ports : after.ports = before.ports.observe plan.target)
      (endpoints : EndpointsTo before.endpoints after.endpoints)
      (services : put (isMirror ·.metadata) (renewService plan.eip (plan.ports before.ports)) before.services =
        some after.services)
  | completed (completes : Completes plan before after)

end Plan

theorem endpointsTo_unique {before after other : List (Option Endpoints)} (first : EndpointsTo before after)
    (second : EndpointsTo before other) : other = after := by
  obtain ⟨served, found, made⟩ := first
  obtain ⟨_, same, madeToo⟩ := second
  rw [found] at same
  cases same
  rw [made] at madeToo
  cases madeToo
  rfl

private theorem endpointsTo_self {before after : List (Option Endpoints)} (mirrored : EndpointsTo before after) :
    EndpointsTo after after := by
  obtain ⟨served, found, made⟩ := mirrored
  refine ⟨served, Cluster.findFirst_put (names_renewEndpoints served) made (fun _ => isServer_of_isMirror) found, ?_⟩
  refine Cluster.put_put (names_renewEndpoints served) made ?_
  rintro mine _ ⟨⟩
  rfl

theorem Plan.Completes.unique {plan : Plan} {before after other : Publication} (first : plan.Completes before after)
    (second : plan.Completes before other) : other = after := by
  obtain ⟨ports, endpoints, written, renewed, shown⟩ := first
  obtain ⟨portsToo, endpointsToo, writtenToo, renewedToo, shownToo⟩ := second
  rw [renewed] at renewedToo
  cases renewedToo
  rw [shown] at shownToo
  cases after
  cases other
  obtain rfl := portsToo.trans ports.symm
  obtain rfl := endpointsTo_unique endpoints endpointsToo
  cases shownToo
  rfl

theorem renewService_settled {eip : String} {ports : List (Option ServicePort)} {found : Option Service}
    {new : Service} (made : renewService eip ports found = some new) : renewService eip ports (some new) = some new := by
  cases found with
  | none =>
    cases made
    rfl
  | some existing =>
    obtain ⟨spec, -, rfl⟩ := Option.map_eq_some_iff.mp made
    rfl

/-- Publishing the status of a service leaves nothing to renew about it. -/
theorem renewService_published {eip other : String} {ports : List (Option ServicePort)} {service : Service}
    (settled : renewService eip ports (some service) = some service) :
    renewService eip ports (some (published other service)) = some (published other service) := by
  obtain ⟨spec, specified, same⟩ := Option.map_eq_some_iff.mp settled
  have renewed : (published other service).spec.map (updated eip ports (published other service)) =
      some (published other (updated eip ports service spec)) := by
    rw [show (published other service).spec = some spec from specified]
    rfl
  exact renewed.trans (congrArg (fun service => some (published other service)) same)

private theorem Plan.ports_observe (plan : Plan) (known : Ports) :
    plan.ports (known.observe plan.target) = plan.ports known := by
  unfold Plan.ports
  rw [Ports.observe_observe]

/-- The service written last is renewed to itself, whether its status was published since or not. -/
theorem put_renewService {eip : String} {ports : List (Option ServicePort)} {before written after : List (Option Service)}
    (renewed : put (isMirror ·.metadata) (renewService eip ports) before = some written)
    (shown : put (isMirror ·.metadata) (Option.map (published eip)) written = some after) :
    put (isMirror ·.metadata) (renewService eip ports) written = some written ∧
      put (isMirror ·.metadata) (renewService eip ports) after = some after ∧
      put (isMirror ·.metadata) (Option.map (published eip)) after = some after := by
  obtain ⟨_, service, -, made, -, there, -⟩ := Cluster.put_cases (names_renewService eip ports) renewed
  obtain ⟨found, _, known, status, -, kept, -⟩ := Cluster.put_cases (names_published eip) shown
  rw [there] at known
  cases known
  cases status
  have settled := renewService_settled made
  exact ⟨Cluster.put_fixed there settled, Cluster.put_fixed kept (renewService_published settled),
    Cluster.put_fixed kept rfl⟩

/-- However far a pass came, completing its plan leads to the same end. -/
theorem Plan.Reaches.completes {plan : Plan} {before middle last : Publication} (reached : plan.Reaches before middle)
    (goal : plan.Completes before last) : plan.Completes middle last := by
  obtain ⟨ports, endpoints, written, renewed, shown⟩ := goal
  -- Noting the port again changes neither the ports nor those of the mirrored service.
  have noted (observed : middle.ports = before.ports.observe plan.target) :
      last.ports = middle.ports.observe plan.target ∧ plan.ports middle.ports = plan.ports before.ports := by
    rw [observed, ports, Ports.observe_observe, Plan.ports_observe]
    exact ⟨rfl, rfl⟩
  cases reached with
  | untouched samePorts sameEndpoints sameServices =>
    constructor
    · rw [samePorts, ports]
    · rw [sameEndpoints]
      exact endpoints
    · rw [samePorts, sameServices]
      exact ⟨written, renewed, shown⟩
  | noted observed sameEndpoints sameServices =>
    constructor
    · exact (noted observed).1
    · rw [sameEndpoints]
      exact endpoints
    · rw [(noted observed).2, sameServices]
      exact ⟨written, renewed, shown⟩
  | repeated observed mirrored sameServices =>
    constructor
    · exact (noted observed).1
    · rw [endpointsTo_unique mirrored endpoints]
      exact endpointsTo_self mirrored
    · rw [(noted observed).2, sameServices]
      exact ⟨written, renewed, shown⟩
  | renewed observed mirrored services =>
    rw [renewed] at services
    cases services
    constructor
    · exact (noted observed).1
    · rw [endpointsTo_unique mirrored endpoints]
      exact endpointsTo_self mirrored
    · rw [(noted observed).2]
      exact ⟨_, (put_renewService renewed shown).1, shown⟩
  | completed completes =>
    obtain ⟨observed, mirrored, other, renewedToo, shownToo⟩ := completes
    rw [renewed] at renewedToo
    cases renewedToo
    rw [shown] at shownToo
    obtain same : last.services = middle.services := Option.some.inj shownToo
    constructor
    · exact (noted observed).1
    · rw [endpointsTo_unique mirrored endpoints]
      exact endpointsTo_self mirrored
    · rw [(noted observed).2, ← same]
      exact ⟨_, (put_renewService renewed shown).2⟩

/-- How a pass ends. It comes some way into its plan, all of the way if it succeeds, and where it is calm it
succeeds whenever the plan can be completed. -/
structure Plan.Ends (plan : Plan) (before last : Publication) (calm : Prop) (result : Except Failure Unit) : Prop where
  reaches : plan.Reaches before last
  succeeds : result = .ok () → plan.Completes before last
  unhindered : calm → (∃ goal, plan.Completes before goal) → result = .ok ()

variable {plan : Plan} {timeout : Option Duration} {before : Publication} {world last : World} {acts : List Act}
  {result : Except Failure Unit}

/-- What notes no port keeps the ports, and where no faults are due none become due. -/
theorem ports_kept {job : Job Unit} (uses : job.Uses fun request => ∀ port, request ≠ .observePort port)
    (done : Job.Does job acts result) (answered : Program.Answers answer world acts last) :
    last.ports = world.ports ∧ (Calm world → Calm last) :=
  ⟨answered.keeps (fun act member before same =>
    (World.answer_ports (Job.uses_acts uses done act member) before).trans same) rfl, World.calm_answers answered⟩

theorem unnoted (plan : Plan) (before : Publication) :
    ∀ call, Publishing (fun _ => True) plan.eip (plan.ports before.ports) call →
      ∀ port, Request.cluster call timeout ≠ .observePort port :=
  fun _ _ _ => nofun

/-- Once the service is renewed, its status is all that is left to do. -/
theorem ends_renewed (ports : world.ports = before.ports.observe plan.target)
    (endpoints : EndpointsTo before.endpoints world.cluster.endpoints)
    (renewed : put (isMirror ·.metadata) (renewService plan.eip (plan.ports before.ports)) before.services =
      some world.cluster.services)
    (done : Job.Does (publishStatus timeout plan.eip) acts result)
    (answered : Program.Answers answer world acts last) : plan.Ends before last.publication (Calm world) result := by
  obtain ⟨kept, -⟩ := ports_kept (uses_publishStatus (fun _ _ => nofun) timeout (unnoted plan before)) done answered
  obtain ⟨sameEndpoints, ⟨rfl, shown⟩ | ⟨⟨failure, rfl⟩, sameServices, hindered⟩⟩ := publishStatus_ends done answered
  · rw [← sameEndpoints] at endpoints
    have completes : plan.Completes before last.publication := ⟨kept.trans ports, endpoints, _, renewed, shown⟩
    exact ⟨.completed completes, fun _ => completes, fun _ _ => rfl⟩
  · have impossible (calm : Calm world) (goal : Publication) : ¬plan.Completes before goal := by
      rintro ⟨-, -, written, renewedToo, shown⟩
      rw [renewed] at renewedToo
      cases renewedToo
      rw [hindered calm] at shown
      cases shown
    rw [← sameEndpoints] at endpoints
    rw [← sameServices] at renewed
    exact ⟨.renewed (kept.trans ports) endpoints renewed, nofun,
      fun calm ⟨goal, completes⟩ => absurd completes (impossible calm goal)⟩

/-- Once the endpoints are mirrored, the service and its status are left to do. -/
theorem ends_repeated (ports : world.ports = before.ports.observe plan.target)
    (endpoints : EndpointsTo before.endpoints world.cluster.endpoints)
    (services : world.cluster.services = before.services)
    (done : Job.Does (do
      mirrorService timeout plan.eip (plan.ports before.ports)
      publishStatus timeout plan.eip) acts result)
    (answered : Program.Answers answer world acts last) : plan.Ends before last.publication (Calm world) result := by
  rcases Job.does_bind.mp done with ⟨failure, rfl, part⟩ | ⟨⟨⟩, _, rest, rfl, part, later⟩
  · obtain ⟨kept, -⟩ := ports_kept (honours_mirrorService (fun _ _ => nofun) timeout (unnoted plan before)).uses part answered
    obtain ⟨sameEndpoints, ⟨impossible, -⟩ | ⟨-, sameServices, hindered⟩⟩ := mirrorService_ends part answered
    · cases impossible
    · rw [← sameEndpoints] at endpoints
      refine ⟨.repeated (kept.trans ports) endpoints (sameServices.trans services), nofun, ?_⟩
      rintro calm ⟨goal, -, -, written, renewed, -⟩
      rw [← services, hindered calm] at renewed
      cases renewed
  · obtain ⟨middle, answeredFirst, answeredRest⟩ := Program.answers_append.mp answered
    obtain ⟨kept, calmMiddle⟩ :=
      ports_kept (honours_mirrorService (fun _ _ => nofun) timeout (unnoted plan before)).uses part answeredFirst
    obtain ⟨sameEndpoints, ⟨-, renewed⟩ | ⟨⟨_, impossible⟩, -⟩⟩ := mirrorService_ends part answeredFirst
    · obtain ⟨reaches, succeeds, unhindered⟩ := ends_renewed (kept.trans ports) (sameEndpoints ▸ endpoints)
        (services ▸ renewed) later answeredRest
      exact ⟨reaches, succeeds, fun calm => unhindered (calmMiddle calm)⟩
    · cases impossible

/-- Once the port is noted, the endpoints, the service and its status are left to do. -/
theorem ends_noted (ports : world.ports = before.ports.observe plan.target)
    (endpoints : world.cluster.endpoints = before.endpoints)
    (services : world.cluster.services = before.services)
    (done : Job.Does (do
      mirrorEndpoints timeout serverSpace serverName
      mirrorService timeout plan.eip (plan.ports before.ports)
      publishStatus timeout plan.eip) acts result)
    (answered : Program.Answers answer world acts last) : plan.Ends before last.publication (Calm world) result := by
  rcases Job.does_bind.mp done with ⟨failure, rfl, part⟩ | ⟨⟨⟩, _, rest, rfl, part, later⟩
  · obtain ⟨kept, -⟩ := ports_kept (uses_mirrorEndpoints (fun _ _ => nofun) timeout (unnoted plan before) ..) part answered
    obtain ⟨sameServices, ⟨impossible, -⟩ | ⟨-, sameEndpoints, hindered⟩⟩ := mirrorEndpoints_ends part answered
    · cases impossible
    · refine ⟨.noted (kept.trans ports) (sameEndpoints.trans endpoints) (sameServices.trans services), nofun, ?_⟩
      rintro calm ⟨goal, -, mirrored, -⟩
      exact absurd (endpoints ▸ mirrored) (hindered calm _)
  · obtain ⟨middle, answeredFirst, answeredRest⟩ := Program.answers_append.mp answered
    obtain ⟨kept, calmMiddle⟩ :=
      ports_kept (uses_mirrorEndpoints (fun _ _ => nofun) timeout (unnoted plan before) ..) part answeredFirst
    obtain ⟨sameServices, ⟨-, mirrored⟩ | ⟨⟨_, impossible⟩, -⟩⟩ := mirrorEndpoints_ends part answeredFirst
    · obtain ⟨reaches, succeeds, unhindered⟩ := ends_repeated (kept.trans ports) (endpoints ▸ mirrored)
        (sameServices.trans services) later answeredRest
      exact ⟨reaches, succeeds, fun calm => unhindered (calmMiddle calm)⟩
    · cases impossible

private theorem mirror_ends (points : targetIn plan.first = .ok plan.target) (same : world.publication = before)
    (done : Job.Does (mirror timeout serverSpace serverName plan.first plan.others plan.eip) acts result)
    (answered : Program.Answers answer world acts last) : plan.Ends before last.publication (Calm world) result := by
  subst same
  have steps := does_mirror.mp done
  rw [points] at steps
  obtain ⟨known, rest, rfl, later⟩ := steps
  obtain ⟨replied, answeredRest⟩ := Program.answers_cons.mp answered
  obtain rfl : known = world.ports := replied
  have ends : plan.Ends world.publication last.publication (Calm (answer (.observePort plan.target) world).2) result :=
    ends_noted rfl rfl rfl later answeredRest
  exact ⟨ends.reaches, ends.succeeds, fun calm => ends.unhindered (World.calm_answer calm (.observePort plan.target))⟩

variable {setup : Setup} {services : List (Option Service)} {mode : Mode} {outcome : Except Failure Outcome}

/-- A listing that is answered tells the reservations, and only a fault keeps it from that. -/
theorem listed {project : String} {reply : Except Failure (List Reservation)} {rest : List Act}
    (answered : Program.Answers answer world (Act.metal (.list project true) reply :: rest) last) :
    ∃ middle, Program.Answers answer middle rest last ∧ middle.publication = world.publication ∧
      (Calm world → Calm middle) ∧ ((¬Calm world ∧ ∃ failure, reply = .error failure) ∨ reply = .ok world.ledger) := by
  obtain ⟨replied, later⟩ := Program.answers_cons.mp answered
  have same : (answer (.metal (.list project true)) world).2.publication = world.publication := by
    unfold World.publication
    rw [World.answer_ports (by nofun), World.answer_cluster (by rintro _ _ ⟨⟩)]
  refine ⟨_, later, same, fun calm => World.calm_answer calm _, ?_⟩
  cases reply with
  | ok reservations =>
    rw [(World.answer_metal_ok (.list project true) reservations replied).2.1]
    exact .inr rfl
  | error failure =>
    refine .inl ⟨fun calm => ?_, failure, rfl⟩
    have due := (World.answer_metal_error (.list project true) failure replied).1
    rw [calm.metal] at due
    cases due

private theorem fits_of_mirrored (done : Job.Does (run setup services mode) acts (.ok .mirrored))
    (answered : Program.Answers answer world acts last) : ∃ plan, Fits setup services mode world.ledger plan := by
  have steps := does_run.mp done
  by_cases blank : setup.tag.isEmpty = true
  · rw [if_pos blank] at steps
    cases steps.2
  rw [if_neg blank] at steps
  obtain ⟨reply, rest, rfl, later⟩ := steps
  obtain ⟨middle, -, -, -, ⟨-, failure, rfl⟩ | rfl⟩ := listed answered
  · cases later.2
  cases matched : Reservation.firstWith [setup.tag] world.ledger with
  | none =>
    simp only [Except.map, matched] at later
    cases later.2
  | some reservation =>
    simp only [Except.map, matched] at later
    by_cases several : 1 < reservation.assignments.length
    · rw [if_pos several] at later
      cases later.2
    rw [if_neg several, does_mirrorFirst] at later
    rcases picked : chosen mode services with failure | _ | ⟨first, others⟩
    · simp only [picked] at later
      cases later.2
    · simp only [picked] at later
      cases later.2
    · simp only [picked] at later
      obtain ⟨result, mirrored, ended⟩ := later
      cases points : targetIn first with
      | error failure =>
        have steps := does_mirror.mp mirrored
        rw [points] at steps
        obtain ⟨rfl, rfl⟩ := steps
        cases ended
      | ok target =>
        exact ⟨⟨reservation.address, first, others, target⟩, by simpa using blank,
          ⟨reservation, matched, Nat.le_of_not_lt several, rfl⟩, picked, points⟩

private theorem run_ends (fits : Fits setup services mode world.ledger plan)
    (done : Job.Does (run setup services mode) acts outcome) (answered : Program.Answers answer world acts last) :
    ∃ result, plan.Ends world.publication last.publication (Calm world) result ∧
      outcome = result.map fun _ => .mirrored := by
  obtain ⟨tagged, ⟨reservation, matched, single, address⟩, picked, points⟩ := fits
  have steps := does_run.mp done
  rw [if_neg (by simp [tagged])] at steps
  obtain ⟨reply, rest, rfl, later⟩ := steps
  obtain ⟨middle, answeredRest, same, calmMiddle, ⟨stormy, failure, rfl⟩ | rfl⟩ := listed answered
  · obtain ⟨rfl, rfl⟩ := later
    obtain rfl := Program.answers_nil.mp answeredRest
    refine ⟨.error failure, ⟨?_, nofun, fun calm => absurd calm stormy⟩, rfl⟩
    rw [same]
    exact .untouched rfl rfl rfl
  · simp only [Except.map, matched, if_neg (Nat.not_lt.mpr single), does_mirrorFirst, picked] at later
    obtain ⟨result, mirrored, rfl⟩ := later
    rw [address] at mirrored
    obtain ⟨reaches, succeeds, unhindered⟩ := mirror_ends points same mirrored answeredRest
    exact ⟨result, ⟨reaches, succeeds, fun calm => unhindered (calmMiddle calm)⟩, rfl⟩

theorem completes_of_mirrored {world : World} (mirrored : (world.run (run setup services mode)).1 = .ok .mirrored) :
    ∃ plan, Fits setup services mode world.ledger plan ∧
      plan.Completes world.publication (world.run (run setup services mode)).2.publication := by
  obtain ⟨last, answered, same⟩ := World.run_answers world (run setup services mode)
  have done := World.does_acts world (run setup services mode)
  obtain ⟨plan, fits⟩ := fits_of_mirrored (mirrored ▸ done) answered
  obtain ⟨failure | ⟨⟨⟩⟩, ends, outcome⟩ := run_ends fits done answered
  · rw [mirrored] at outcome
    cases outcome
  · rw [same.publication]
    exact ⟨plan, fits, ends.succeeds rfl⟩

/-- A pass that died of a fault, wherever that was, is made good by the next pass that meets none. -/
theorem healed (world : World) (setup : Setup) (services : List (Option Service)) (mode : Mode)
    (mirrored : (world.calmed.run (run setup services mode)).1 = .ok .mirrored) :
    let once := (world.calmed.run (run setup services mode)).2
    let again := (world.run (run setup services mode)).2.calmed.run (run setup services mode)
    again.1 = .ok .mirrored ∧ again.2.cluster.services = once.cluster.services ∧
      again.2.cluster.endpoints = once.cluster.endpoints ∧ again.2.ports = once.ports := by
  intro once again
  obtain ⟨plan, fits, goal⟩ : ∃ plan, Fits setup services mode world.ledger plan ∧
      plan.Completes world.publication once.publication := completes_of_mirrored mirrored
  -- The first pass comes some way into the plan of the single one, so there is as much to complete as before.
  obtain ⟨stopped, answered, same⟩ := World.run_answers world (run setup services mode)
  obtain ⟨_, first, -⟩ := run_ends fits (World.does_acts world _) answered
  have goalAgain := first.reaches.completes goal
  rw [← same.publication] at goalAgain
  have fitsAgain : Fits setup services mode (world.run (run setup services mode)).2.calmed.ledger plan := by
    rw [show (world.run (run setup services mode)).2.calmed.ledger = world.ledger from
      ((quiet_run setup services mode).still world).ledger]
    exact fits
  obtain ⟨ended, answered, same⟩ := World.run_answers _ (run setup services mode)
  obtain ⟨result, second, outcome⟩ := run_ends fitsAgain (World.does_acts _ _) answered
  obtain rfl := second.unhindered (World.calm_calmed _) ⟨_, goalAgain⟩
  have equal := goalAgain.unique (second.succeeds rfl)
  rw [← same.publication] at equal
  exact ⟨outcome, congrArg Publication.services equal, congrArg Publication.endpoints equal,
    congrArg Publication.ports equal⟩

def plainServer : Service where
  metadata := some { name := some serverName, space := some serverSpace }
  spec := some { ports := some [some ⟨.number 443, .int 6443, []⟩] }

/-- A cluster without a mirror, where writing the status of the first one breaks. -/
def interrupted : World where
  cluster := {
    services := [some plainServer]
    endpoints := [some { metadata := plainServer.metadata, subsets := some [.text "10.0.0.1"] }] }
  clusterFaults := Schedule.clear.set .replaceServiceStatus [some (.crash .missingPart)]
  ledger := [⟨"reservation", "1.2.3.4", ["eip"], []⟩]

def plainPass : Job Outcome := run ⟨"project", "eip", none⟩ [some plainServer] .sync

theorem healed_interrupted :
    (interrupted.run plainPass).1 = .error (.crash .missingPart) ∧
      (interrupted.calmed.run plainPass).1 = .ok .mirrored ∧
      ((interrupted.run plainPass).2.calmed.run plainPass).1 = .ok .mirrored ∧
      ((interrupted.run plainPass).2.calmed.run plainPass).2.cluster.services =
        (interrupted.calmed.run plainPass).2.cluster.services := by
  have mirrored : (interrupted.calmed.run plainPass).1 = .ok .mirrored := by rfl
  obtain ⟨again, services, -⟩ := healed interrupted _ _ _ mirrored
  exact ⟨by rfl, mirrored, again, services⟩

end ServicePass

end ElasticEndpoint
