import ElasticEndpoint.Proofs.Contracts
import ElasticEndpoint.Proofs.ServicePassActs

/-!
What passes ask for. A node pass looks at nodes, ports and servers, and works on reservations; it writes nothing
in the cluster. A service pass writes the mirrored objects only, in forms that the replies so far decide on.
-/

namespace ElasticEndpoint

open Program (Honours)

namespace Job

variable {allowed : Request → Prop}

theorem uses_acts {α : Type} {job : Job α} {acts : List Act} {result : Except Failure α} (uses : job.Uses allowed)
    (done : Does job acts result) : ∀ act ∈ acts, allowed act.request := by
  obtain ⟨history, ended, rfl⟩ := done
  exact fun act member => uses.ends ended act (List.mem_filter.mp member).1

private theorem uses_log (log : ∀ record, allowed (.log record)) (part : Part) (severity : Severity) (message : String) :
    (Job.log part severity message).Uses allowed := ⟨log _, fun _ => trivial⟩

theorem uses_logAll (log : ∀ record, allowed (.log record)) (records : List Record) : (logAll records).Uses allowed := by
  induction records with
  | nil => trivial
  | cons record rest ih => exact ⟨log record, fun _ => ih⟩

theorem uses_cluster {call : Cluster.Call} {timeout : Option Duration} (asked : allowed (.cluster call timeout)) :
    (cluster call timeout).Uses allowed := by
  refine ⟨asked, fun reply => ?_⟩
  rcases reply with (fault | crash) | value <;> trivial

/-- The desired port that an observation gives is decided by its reply. -/
theorem honours_observePort {told : Act → Prop} (log : ∀ record, allowed (.log record)) {port : Net.Port}
    (observe : allowed (.observePort port)) :
    (observePort port).Honours told allowed fun result => ∀ desired, result = .ok desired →
      ∃ before : Ports, told ⟨.observePort port, before⟩ ∧ desired = (before.observe port).desired := by
  refine ⟨observe, fun before given => ?_⟩
  apply (uses_logAll log _).honours.bind
  · rintro - - desired ⟨⟩
    exact ⟨before, given, rfl⟩
  · exact fun _ _ _ => nofun

end Job

section

variable {allowed : Request → Prop} (log : ∀ record, allowed (.log record))

include log

private theorem Resolver.uses_resolve {project : String} (list : allowed (.metal (.list project true))) (tags : List String) :
    (resolve project tags).Uses allowed := by
  unfold resolve
  dsimp only
  split
  · trivial
  · refine .bind ⟨list, fun _ => trivial⟩ fun reservations => ?_
    split <;> exact .bind (Job.uses_log log ..) fun _ => trivial

theorem NodePass.uses_refuseMultiple (part : Part) (reservation : Reservation) :
    (refuseMultiple part reservation).Uses allowed := by
  unfold refuseMultiple
  dsimp only
  split
  · exact .bind (Job.uses_log log ..) fun _ => trivial
  · trivial

end

/-! Of a node pass. -/

section

variable {allowed : Request → Prop} (log : ∀ record, allowed (.log record))

include log

private theorem Health.uses_probe {timeout : Option Duration} {url : String} (asked : allowed (.http (request timeout url))) :
    (probe timeout url).Uses allowed := by
  refine ⟨log _, fun _ => ⟨asked, fun outcome => ?_⟩⟩
  cases outcome with
  | broken => trivial
  | failed => exact ⟨log _, fun _ => trivial⟩
  | answered status body =>
    change Program.Uses allowed (if status != 200 then _ else _)
    split <;> exact ⟨log _, fun _ => trivial⟩

namespace Instance

variable {timeout : Option Duration} {name : Option String} (read : allowed (.cluster (.readNode name) timeout))

include read

private theorem uses_readNode : (readNode timeout name).Uses allowed := by
  refine .bind (Job.uses_cluster read) fun reply => ?_
  cases reply with
  | ok node => trivial
  | error fault => exact ⟨log _, fun _ => trivial⟩

private theorem uses_nodeAddresses : (nodeAddresses timeout name).Uses allowed := by
  refine .bind (uses_readNode log read) fun node => ?_
  split <;> trivial

private theorem uses_instanceId : (instanceId timeout name).Uses allowed := by
  refine .bind (uses_readNode log read) fun node => ?_
  split
  · trivial
  · split
    · trivial
    · split <;> trivial

end Instance

namespace Failover

variable {reservation : Reservation} {device : String}
  (assign : allowed (.metal (.assign device reservation.address)))

include assign

private theorem uses_reassign : (reassign reservation device).Uses allowed := by
  refine ⟨assign, fun reply => ?_⟩
  rcases reply with (problem | crash) | assignment
  · change Program.Uses allowed (if problem.family.isMetal then _ else _)
    split
    · exact ⟨log _, fun _ => trivial⟩
    · trivial
  · trivial
  · trivial

theorem uses_move (unassign : ∀ id, allowed (.metal (.unassign id))) : (move reservation device).Uses allowed := by
  unfold move
  split
  · next assignment _ =>
    have removing : (Failover.unassign reservation assignment).Uses allowed :=
      ⟨log _, fun _ => ⟨unassign _, fun _ => trivial⟩⟩
    exact removing.bind fun _ => .bind (uses_reassign log assign) fun _ => trivial
  · exact .bind ⟨assign, fun _ => trivial⟩ fun _ => trivial

end Failover

end

namespace Failover

/-- What a failover asks for under its time limits. -/
structure Allows (limits : Limits) (allowed : Request → Prop) : Prop where
  log : ∀ record, allowed (.log record)
  ports : allowed .ports
  read : ∀ name, allowed (.cluster (.readNode name) limits.api)
  probe : ∀ url, allowed (.http (Health.request limits.probe url))
  assign : ∀ device address, allowed (.metal (.assign device address))
  unassign : ∀ id, allowed (.metal (.unassign id))

variable {limits : Limits} {allowed : Request → Prop} (allows : Allows limits allowed) (reservation : Reservation)

include allows

theorem Allows.handOver (node : Option String) (address : String) :
    (handOver limits reservation node address).Uses allowed := by
  apply Program.Uses.bind (Instance.uses_instanceId allows.log (allows.read node))
  intro device
  apply Program.Uses.bind (uses_move allows.log (allows.assign device _) allows.unassign)
  intro previous
  exact ⟨allows.log _, fun _ => trivial⟩

theorem Allows.tryAddresses (port : Net.Port) (eipUrl : String) (node : Option String) (count : Nat)
    (addresses : List NodeAddress) :
    (tryAddresses limits port reservation eipUrl node count addresses).Uses allowed := by
  induction addresses generalizing count with
  | nil => trivial
  | cons candidate addresses ih =>
    unfold Failover.tryAddresses
    split
    · exact ⟨allows.log _, fun _ => ih count⟩
    · dsimp only
      split
      · exact ⟨allows.log _, fun _ => ih count⟩
      · refine ⟨allows.log _, fun _ => .bind (Health.uses_probe allows.log (allows.probe _)) fun health => ?_⟩
        split
        · exact .bind (allows.handOver ..) fun _ => trivial
        · cases health with
          | answered => exact ⟨allows.log _, fun _ => ih (count + 1)⟩
          | unreachable => exact ih (count + 1)

theorem Allows.tryNodes (port : Net.Port) (eipUrl : String) (count : Nat) (nodes : List (Option Cluster.Node)) :
    (tryNodes limits port reservation eipUrl count nodes).Uses allowed := by
  induction nodes generalizing count with
  | nil => trivial
  | cons node nodes ih =>
    unfold Failover.tryNodes
    split
    · trivial
    · refine .bind (Instance.uses_nodeAddresses allows.log (allows.read _)) fun addresses =>
        .bind (allows.tryAddresses ..) fun trial => ?_
      cases trial with
      | moved => trivial
      | checked count => exact ih count

theorem Allows.run (nodes : List (Option Cluster.Node)) (eipUrl : String) :
    (run limits nodes reservation eipUrl).Uses allowed := by
  refine ⟨allows.ports, fun ports => ?_⟩
  change Program.Uses allowed (if ports.node.isUnknown then _ else _)
  split
  · trivial
  · split
    · trivial
    · refine .bind (allows.tryNodes ..) fun trial => ?_
      cases trial with
      | moved => trivial
      | checked => exact ⟨allows.log _, fun _ => trivial⟩

end Failover

namespace NodePass

theorem uses_controlPlane {allowed : Request → Prop} (log : ∀ record, allowed (.log record))
    (nodes : List (Option Cluster.Node)) : (controlPlane nodes).Uses allowed := by
  induction nodes with
  | nil => trivial
  | cons node nodes ih =>
    cases node with
    | none => trivial
    | some node =>
      unfold controlPlane
      split
      · exact ⟨log _, fun _ => .bind ih fun _ => trivial⟩
      · exact ih

/-- What a pass asks for inside the guard. -/
structure Allows (setup : Setup) (allowed : Request → Prop) : Prop extends Failover.Allows setup.limits allowed where
  remember : ∀ move, allowed (.remember move)
  list : allowed (.metal (.list setup.project true))

variable {setup : Setup} {allowed : Request → Prop}

theorem uses_checkElastic (log : ∀ record, allowed (.log record))
    (probe : ∀ url, allowed (.http (Health.request setup.limits.probe url))) (reservation : Reservation)
    (eipUrl : String) : (checkElastic setup reservation eipUrl).Uses allowed := by
  unfold checkElastic
  split
  · exact ⟨log _, fun _ => trivial⟩
  · refine ⟨log _, fun _ => .bind (Health.uses_probe log (probe _)) fun health => ?_⟩
    split
    · trivial
    · cases health with
      | answered => exact ⟨log _, fun _ => trivial⟩
      | unreachable =>
        dsimp only
        split
        · trivial
        · exact ⟨log _, fun _ => trivial⟩

theorem uses_startFailover (allows : Failover.Allows setup.limits allowed) (remember : ∀ move, allowed (.remember move))
    (nodes : List (Option Cluster.Node)) (reservation : Reservation) (eipUrl : String) :
    (startFailover setup nodes reservation eipUrl).Uses allowed := by
  apply Program.Uses.andThen (allows.run ..)
  intro moved
  rcases moved with (problem | crash) | move
  · exact ⟨allows.log _, fun _ => trivial⟩
  · trivial
  · exact ⟨remember _, fun _ => trivial⟩

theorem Allows.inside (allows : Allows setup allowed) (nodes : List (Option Cluster.Node)) :
    (inside setup nodes).Uses allowed := by
  refine ⟨allows.ports, fun ports => ?_⟩
  change Program.Uses allowed (if ports.desired.isUnknown then _ else _)
  split
  · trivial
  refine .bind (Resolver.uses_resolve allows.log allows.list _) fun found => ?_
  split
  · trivial
  apply Program.Uses.bind (uses_refuseMultiple allows.log ..)
  intro _
  apply Program.Uses.bind (uses_checkElastic allows.log allows.probe ..)
  intro healthy
  split
  · trivial
  · exact .bind (uses_controlPlane allows.log nodes) fun candidates =>
      uses_startFailover allows.toAllows allows.remember ..

theorem uses_run_of_inside (log : ∀ record, allowed (.log record)) (enter : allowed .enterGuard)
    (leave : allowed .leaveGuard) (state : allowed .guardState) {nodes : List (Option Cluster.Node)}
    (within : (inside setup nodes).Uses allowed) : (run setup nodes).Uses allowed := by
  refine ⟨log _, fun _ => ⟨enter, fun entered => ?_⟩⟩
  cases entered with
  | false => exact ⟨state, fun _ => ⟨log _, fun _ => trivial⟩⟩
  | true =>
    refine within.andThen fun result => ⟨leave, fun left => ?_⟩
    cases left <;> trivial

end NodePass

/-- Whether a request is of the kinds that a node pass makes inside the guard. -/
def Request.isNodeWork : Request → Bool
  | .log _ | .ports | .remember _ | .metal _ | .http _ | .cluster (.readNode _) _ => true
  | _ => false

/-- Whether a request is about the guard. -/
def Request.isGuard : Request → Bool
  | .enterGuard | .leaveGuard | .guardState => true
  | _ => false

theorem Request.unguarded_of_work {request : Request} (work : request.isNodeWork = true) :
    request ≠ .enterGuard ∧ request ≠ .leaveGuard := by
  constructor <;>
  · rintro rfl
    cases work

/-- A job that makes only requests of a node pass. -/
abbrev Job.IsNodeWork {α : Type} (job : Job α) : Prop := job.Uses (·.isNodeWork = true)

namespace NodePass

variable (setup : Setup)

private theorem allows_work : Allows setup (·.isNodeWork = true) where
  log _ := rfl
  ports := rfl
  read _ := rfl
  probe _ := rfl
  assign _ _ := rfl
  unassign _ := rfl
  remember _ := rfl
  list := rfl

theorem work_inside (nodes : List (Option Cluster.Node)) : (inside setup nodes).IsNodeWork :=
  (allows_work setup).inside nodes

theorem uses_run (nodes : List (Option Cluster.Node)) :
    (run setup nodes).Uses fun request => request.isNodeWork = true ∨ request.isGuard = true := by
  apply uses_run_of_inside (fun _ => .inl rfl) (.inr rfl) (.inr rfl) (.inr rfl)
  exact (work_inside setup nodes).imp fun _ work => .inl work

end NodePass

/-! Of a service pass. -/

namespace ServicePass

open Cluster (Service Endpoints ServicePort ServiceSpec Call)

/-- The calls that publish an elastic address on some ports. A mirrored service that is replaced is one that was
told of. -/
inductive Publishing (told : Act → Prop) (eip : String) (ports : List (Option ServicePort)) : Call → Prop where
  | readEndpoints (name space : String) : Publishing told eip ports (.readEndpoints name space)
  | createEndpoints (body : Endpoints) : Publishing told eip ports (.createEndpoints mirrorSpace body)
  | replaceEndpoints (body : Endpoints) : Publishing told eip ports (.replaceEndpoints mirrorName mirrorSpace body)
  | readService : Publishing told eip ports (.readService mirrorName mirrorSpace)
  | createService : Publishing told eip ports (.createService mirrorSpace (newService eip ports))
  | replaceService (timeout : Option Duration) (existing : Service) (spec : ServiceSpec)
      (seen : told (.cluster (.readService mirrorName mirrorSpace) timeout (.ok existing))) :
      Publishing told eip ports (.replaceService mirrorName mirrorSpace (updated eip ports existing spec))
  | replaceStatus (service : Service) :
      Publishing told eip ports (.replaceServiceStatus mirrorName mirrorSpace (published eip service))

section

variable {told : Act → Prop} {allowed : Request → Prop} {eip : String} {ports : List (Option ServicePort)}
  (log : ∀ record, allowed (.log record)) (timeout : Option Duration)
  (call : ∀ call, Publishing told eip ports call → allowed (.cluster call timeout))

include log

private theorem uses_refuse {α : Type} (note message : String) (fault : Cluster.Fault) :
    (refuse note message fault : Job α).Uses allowed :=
  .bind (Job.uses_log log ..) fun _ => trivial

private theorem uses_targetOf (port : ServicePort) : (targetOf port).Uses allowed := by
  unfold targetOf
  split
  · trivial
  · trivial
  · exact .bind (Job.uses_log log ..) fun _ => trivial
  · trivial

include call

private theorem uses_mirroredEndpoints : (mirroredEndpoints timeout).Uses allowed := by
  refine .bind (Job.uses_cluster (call _ (.readEndpoints ..))) fun reply => ?_
  split
  · trivial
  · split
    · exact .bind (Job.uses_log log ..) fun _ => trivial
    · exact uses_refuse log ..

theorem uses_mirrorEndpoints (space name : String) : (mirrorEndpoints timeout space name).Uses allowed := by
  refine .bind (Job.uses_cluster (call _ (.readEndpoints ..))) fun served => ?_
  split
  · exact uses_refuse log ..
  · refine .bind (uses_mirroredEndpoints log timeout call) fun (existed, mine) => ?_
    dsimp only
    split
    · refine .bind (Job.uses_cluster (call _ (.replaceEndpoints _))) fun written => ?_
      split
      · trivial
      · exact uses_refuse log ..
    · refine .bind (Job.uses_cluster (call _ (.createEndpoints _))) fun written => ?_
      split
      · trivial
      · exact uses_refuse log ..

private theorem honours_mirroredService : (mirroredService timeout).Honours told allowed fun result => ∀ existing,
    result = .ok (some existing) → told (.cluster (.readService mirrorName mirrorSpace) timeout (.ok existing)) := by
  refine ⟨call _ .readService, fun reply given => ?_⟩
  rcases reply with (fault | crash) | existing
  · change Program.Honours _ _ _ (if fault.isNotFound then _ else _)
    split
    · exact fun _ => nofun
    · exact ⟨log _, fun _ _ _ => nofun⟩
  · exact fun _ => nofun
  · intro other same
    cases same
    exact given

theorem honours_mirrorService : (mirrorService timeout eip ports).Honours told allowed fun _ => True := by
  apply (honours_mirroredService log timeout call).bind
  · intro found seen
    cases found with
    | some existing =>
      refine ⟨log _, fun _ _ => ?_⟩
      have replacing := fun spec => call _ (.replaceService timeout existing spec (seen existing rfl))
      obtain ⟨metadata, spec, status, others⟩ := existing
      cases spec with
      | none => trivial
      | some spec =>
        refine (Program.Uses.bind (Job.uses_cluster (replacing spec)) fun written => ?_).honours
        split
        · trivial
        · exact uses_refuse log ..
    | none =>
      refine ⟨log _, fun _ _ => ?_⟩
      refine (Program.Uses.bind (Job.uses_cluster (call _ .createService)) fun written => ?_).honours
      split
      · trivial
      · exact uses_refuse log ..
  · exact fun _ _ => trivial

theorem uses_publishStatus : (publishStatus timeout eip).Uses allowed := by
  refine .bind (Job.uses_cluster (call _ .readService)) fun served => ?_
  split
  · exact uses_refuse log ..
  · refine .bind (Job.uses_cluster (call _ (.replaceStatus _))) fun written => ?_
    split
    · exact uses_refuse log ..
    · exact Job.uses_log log ..

end

section

variable {told : Act → Prop} {allowed : Request → Prop} (log : ∀ record, allowed (.log record))
  (observe : ∀ port, allowed (.observePort port)) {timeout : Option Duration}
  (call : ∀ (before : Ports) target, told ⟨.observePort target, before⟩ → ∀ eip (first : ServicePort) others call,
    Publishing told eip (some { first with port := (before.observe target).desired } :: others) call →
      allowed (.cluster call timeout))

include log observe call

/-- A pass publishes the desired port that it was told when it noted its own. -/
theorem honours_mirror (space name eip : String) (first : ServicePort) (others : List (Option ServicePort)) :
    (mirror timeout space name first others eip).Honours told allowed fun _ => True := by
  apply (uses_targetOf log first).honours.bind
  · intro target _
    apply (Job.honours_observePort log (observe target)).bind
    · intro desired given
      obtain ⟨before, noted, rfl⟩ := given desired rfl
      have calls := call before target noted eip first others
      apply (uses_mirrorEndpoints log timeout calls space name).honours.bind
      · intro _ _
        apply (honours_mirrorService log timeout calls).bind
        · exact fun _ _ => (uses_publishStatus log timeout calls).honours
        · exact fun _ _ => trivial
      · exact fun _ _ => trivial
    · exact fun _ _ => trivial
  · exact fun _ _ => trivial

theorem honours_mirrorFirst (mode : Mode) (eip : String) (services : List (Option Service)) :
    (mirrorFirst timeout mode eip services).Honours told allowed fun _ => True := by
  induction services with
  | nil =>
    unfold mirrorFirst
    split
    · exact ⟨log _, fun _ _ => trivial⟩
    · trivial
  | cons service rest ih =>
    cases service with
    | none => trivial
    | some service =>
      unfold mirrorFirst
      split
      · trivial
      · split
        · split
          · exact ⟨log _, fun _ _ => trivial⟩
          · trivial
          · exact (honours_mirror log observe call ..).bind (fun _ _ => trivial) fun _ _ => trivial
        · exact ih

end

theorem honours_run {told : Act → Prop} {allowed : Request → Prop} {setup : Setup}
    (log : ∀ record, allowed (.log record)) (list : allowed (.metal (.list setup.project true)))
    (observe : ∀ port, allowed (.observePort port))
    (call : ∀ (before : Ports) target, told ⟨.observePort target, before⟩ → ∀ eip (first : ServicePort) others call,
      Publishing told eip (some { first with port := (before.observe target).desired } :: others) call →
        allowed (.cluster call setup.timeout))
    (services : List (Option Service)) (mode : Mode) :
    (run setup services mode).Honours told allowed fun _ => True := by
  apply (Resolver.uses_resolve log list _).honours.bind
  · intro found _
    cases found with
    | none => trivial
    | some reservation =>
      apply (NodePass.uses_refuseMultiple log .services reservation).honours.bind
      · exact fun _ _ => honours_mirrorFirst log observe call ..
      · exact fun _ _ => trivial
  · exact fun _ _ => trivial

end ServicePass

end ElasticEndpoint
