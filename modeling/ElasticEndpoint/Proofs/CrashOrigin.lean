import ElasticEndpoint.Proofs.ServicePassActs
import ElasticEndpoint.Sync

/-!
Where crashes come from. As long as the cluster gives well-formed objects, no part of a sync crashes on its own
account: it ends in a crash exactly if the cloud interface replied with that crash. This is shown by rules over
the jobs that a sync is made of, as a property of all that each of them may be told.
-/

namespace ElasticEndpoint

open Cluster (Node Service ServicePort)

/-- A service with metadata, of which every port is there and points at a number. -/
structure Cluster.Service.IsWellFormed (service : Service) : Prop where
  metadata : ∃ metadata, service.metadata = some metadata
  ports : ∀ ports, service.spec.bind (·.ports) = some ports →
    ∀ place ∈ ports, ∃ port target, place = some port ∧ ServicePass.targetIn port = .ok target

/-- What the cluster must give for a call to be answered with well-formed objects. -/
def Cluster.Call.IsWellFormed : (call : Cluster.Call) → call.Reply → Prop
  | .readService .., service => ∃ spec, service.spec = some spec
  | .listServices, services => ∀ place ∈ services, ∃ service, place = some service ∧ service.IsWellFormed
  | .listNodes, nodes => ∀ place ∈ nodes, ∃ node, place = some node ∧ ∃ metadata, node.metadata = some metadata
  | .readNode _, node => ∃ reported, node.addresses.mapM id = some reported
  | _, _ => True

/-- Over HTTP, whether a request has the form of a health check. -/
def Request.isPlain : Request → Bool
  | .http request => request.method == .get && request.params.isNone
  | _ => true

namespace Act

/-- A reply that is not a crash, unless the cloud interface gives it: of the cluster a fault or a well-formed
object, over HTTP an answer or a failure, and of the guard that it was left. -/
def IsSound : Act → Prop
  | ⟨.cluster _ _, .error (.crash _)⟩ => False
  | ⟨.cluster call _, .ok reply⟩ => call.IsWellFormed reply
  | ⟨.http _, .broken _⟩ => False
  | ⟨.leaveGuard, left⟩ => left = true
  | _ => True

/-- The crash that the cloud interface replied with. -/
def crash? : Act → Option Crash
  | ⟨.metal _, .error (.crash crash)⟩ => some crash
  | _ => none

end Act

namespace Job

variable {α β : Type}

/-- A job that ends in a crash, and is not told of another one. -/
def Falls (crash : Crash) : Job α → Prop
  | Program.done result => result = .error (.crash crash)
  | Program.ask request next => request.isPlain = true ∧ ∀ reply, Act.IsSound ⟨request, reply⟩ →
    Act.crash? ⟨request, reply⟩ = none ∧ Falls crash (next reply)

/-- A job that ends in a crash only if it is told of it. What it ends in otherwise satisfies a condition. -/
def Survives (post : Except Problem α → Prop) : Job α → Prop
  | Program.done (.ok value) => post (.ok value)
  | Program.done (.error (.problem problem)) => post (.error problem)
  | Program.done (.error (.crash _)) => False
  | Program.ask request next => request.isPlain = true ∧ ∀ reply, Act.IsSound ⟨request, reply⟩ →
    match Act.crash? ⟨request, reply⟩ with
    | none => Survives post (next reply)
    | some crash => Falls crash (next reply)

theorem Falls.ends {crash : Crash} {job : Job α} {history : List Act} {result : Except Failure α}
    (falls : job.Falls crash) (ended : job.Ends history result) (sound : ∀ act ∈ history, act.IsSound) :
    (∀ act ∈ history, act.request.isPlain = true ∧ act.crash? = none) ∧ result = .error (.crash crash) := by
  induction ended with
  | done => exact ⟨by simp, falls⟩
  | ask _ ih =>
    obtain ⟨first, rest⟩ := List.forall_mem_cons.mp sound
    obtain ⟨calm, later⟩ := falls.2 _ first
    obtain ⟨others, ended⟩ := ih later rest
    exact ⟨List.forall_mem_cons.mpr ⟨⟨falls.1, calm⟩, others⟩, ended⟩

variable {post : Except Problem α → Prop} {other : Except Problem β → Prop}

/-- A job that survives ends in exactly the crashes that it is told of, and else in what the condition says. -/
theorem Survives.ends {job : Job α} {history : List Act} {result : Except Failure α} (survives : job.Survives post)
    (ended : job.Ends history result) (sound : ∀ act ∈ history, act.IsSound) :
    (∀ act ∈ history, act.request.isPlain = true) ∧
      (∀ crash, (∃ act ∈ history, act.crash? = some crash) ↔ result = .error (.crash crash)) ∧
      (∀ value, result = .ok value → post (.ok value)) ∧
        ∀ problem, result = .error (.problem problem) → post (.error problem) := by
  induction ended with
  | done result =>
    rcases result with (problem | crash) | value
    · exact ⟨by simp, by simp, nofun, by rintro _ ⟨⟩; exact survives⟩
    · exact survives.elim
    · exact ⟨by simp, by simp, by rintro _ ⟨⟩; exact survives, nofun⟩
  | @ask request next reply history result rest ih =>
    obtain ⟨first, others⟩ := List.forall_mem_cons.mp sound
    have later := survives.2 reply first
    cases told : Act.crash? ⟨request, reply⟩ with
    | none =>
      rw [told] at later
      obtain ⟨plain, crashes, posts⟩ := ih later others
      refine ⟨List.forall_mem_cons.mpr ⟨survives.1, plain⟩, fun crash => ?_, posts⟩
      rw [← crashes crash]
      simp [told]
    | some crash =>
      rw [told] at later
      obtain ⟨calm, rfl⟩ := later.ends rest others
      refine ⟨List.forall_mem_cons.mpr ⟨survives.1, fun act member => (calm act member).1⟩, fun other => ?_,
        nofun, nofun⟩
      constructor
      · rintro ⟨act, member, tells⟩
        rcases List.mem_cons.mp member with rfl | member
        · rw [told] at tells
          cases tells
          rfl
        · rw [(calm act member).2] at tells
          cases tells
      · rintro ⟨⟩
        exact ⟨_, List.mem_cons_self, told⟩

/-- The acts of a job that survives tell as much as its whole history. -/
theorem Survives.does {job : Job α} {acts : List Act} {result : Except Failure α} (survives : job.Survives post)
    (done : Does job acts result) (sound : ∀ act ∈ acts, act.IsSound) :
    (∀ act ∈ acts, act.request.isPlain = true) ∧
      (∀ crash, (∃ act ∈ acts, act.crash? = some crash) ↔ result = .error (.crash crash)) ∧
      (∀ value, result = .ok value → post (.ok value)) ∧
        ∀ problem, result = .error (.problem problem) → post (.error problem) := by
  obtain ⟨history, ended, rfl⟩ := done
  have silent (act : Act) : act.request.isLog = true → Act.IsSound act ∧ Act.crash? act = none := by
    obtain ⟨request, reply⟩ := act
    intro logs
    cases request with
    | log record => exact ⟨trivial, rfl⟩
    | _ => cases logs
  have whole : ∀ act ∈ history, Act.IsSound act := by
    intro act member
    cases logs : act.request.isLog with
    | true => exact (silent act logs).1
    | false => exact sound act (List.mem_filter.mpr ⟨member, by simp [logs]⟩)
  obtain ⟨plain, crashes, posts⟩ := survives.ends ended whole
  refine ⟨fun act member => plain act (List.mem_filter.mp member).1, fun crash => ?_, posts⟩
  rw [← crashes crash]
  constructor
  · rintro ⟨act, member, tells⟩
    exact ⟨act, (List.mem_filter.mp member).1, tells⟩
  · rintro ⟨act, member, tells⟩
    refine ⟨act, List.mem_filter.mpr ⟨member, ?_⟩, tells⟩
    cases logs : act.request.isLog with
    | true =>
      rw [(silent act logs).2] at tells
      cases tells
    | false => rfl

theorem Falls.andThen {crash : Crash} {job : Job α} {next : Except Failure α → Job β} (first : job.Falls crash)
    (later : (next (.error (.crash crash))).Falls crash) : Falls crash (job.andThen next) := by
  induction job with
  | done result =>
    cases first
    exact later
  | ask request rest ih =>
    refine ⟨first.1, fun reply sound => ?_⟩
    obtain ⟨calm, falls⟩ := first.2 reply sound
    exact ⟨calm, ih reply falls⟩

theorem Survives.andThen {job : Job α} {next : Except Failure α → Job β} (first : job.Survives post)
    (value : ∀ value, post (.ok value) → (next (.ok value)).Survives other)
    (problem : ∀ problem, post (.error problem) → (next (.error (.problem problem))).Survives other)
    (crash : ∀ crash, (next (.error (.crash crash))).Falls crash) : Survives other (job.andThen next) := by
  induction job with
  | done result =>
    rcases result with (failure | failure) | found
    · exact problem failure first
    · exact first.elim
    · exact value found first
  | ask request rest ih =>
    refine ⟨first.1, fun reply sound => ?_⟩
    have later := first.2 reply sound
    cases told : Act.crash? ⟨request, reply⟩ with
    | none =>
      rw [told] at later
      exact ih reply later
    | some other =>
      rw [told] at later
      exact later.andThen (crash other)

theorem Survives.bind {job : Job α} {next : α → Job β} (first : job.Survives post)
    (value : ∀ value, post (.ok value) → (next value).Survives other)
    (problem : ∀ problem, post (.error problem) → other (.error problem)) : Survives other (job >>= next) := by
  change Survives other (Program.bind job next)
  unfold Program.bind
  apply Survives.andThen first
  · exact value
  · exact problem
  · intro crash
    rfl

theorem Survives.log_bind {part : Part} {severity : Severity} {message : String} {next : Unit → Job β}
    (later : (next ()).Survives other) : Survives other (Job.log part severity message >>= next) :=
  ⟨rfl, fun _ _ => later⟩

private theorem survives_cluster {call : Cluster.Call} {timeout : Option Duration} :
    (Job.cluster call timeout).Survives fun given => ∀ reply, given = .ok (.ok reply) → call.IsWellFormed reply := by
  refine ⟨rfl, fun reply sound => ?_⟩
  rcases reply with (fault | crash) | value
  · exact nofun
  · exact sound.elim
  · rintro _ ⟨⟩
    exact sound

abbrev Endures (job : Job α) : Prop := job.Survives fun _ => True

private theorem Survives.endures {job : Job α} (survives : job.Survives post) : job.Endures := by
  induction job with
  | done result =>
    rcases result with (problem | crash) | value
    · trivial
    · exact survives.elim
    · trivial
  | ask request next ih =>
    refine ⟨survives.1, fun reply sound => ?_⟩
    have later := survives.2 reply sound
    cases told : Act.crash? ⟨request, reply⟩ with
    | none =>
      rw [told] at later
      exact ih reply later
    | some crash =>
      rw [told] at later
      exact later

theorem Endures.bind {job : Job α} {next : α → Job β} (first : job.Endures) (value : ∀ value, (next value).Endures) :
    Endures (job >>= next) :=
  Survives.bind first (fun found _ => value found) fun _ _ => trivial

private theorem endures_metal {call : Metal.Call} : (Job.metal call).Endures := by
  refine ⟨rfl, fun reply _ => ?_⟩
  rcases reply with (problem | crash) | value
  · trivial
  · rfl
  · trivial

private theorem endures_ports : Job.ports.Endures := ⟨rfl, fun _ _ => trivial⟩

private theorem endures_logAll {records : List Record} : (logAll records).Endures := by
  induction records with
  | nil => trivial
  | cons record records ih => exact .log_bind ih

private theorem endures_observePort {port : Net.Port} : (observePort port).Endures :=
  ⟨rfl, fun _ _ => endures_logAll.bind fun _ => trivial⟩

end Job

open Job (Survives Endures)

private theorem Health.endures_probe {timeout : Option Duration} {url : String} : (probe timeout url).Endures := by
  refine .log_bind ⟨rfl, fun outcome sound => ?_⟩
  cases outcome with
  | broken => exact sound.elim
  | failed => exact .log_bind trivial
  | answered status body =>
    change Endures (if status != 200 then _ else _)
    split <;> exact .log_bind trivial

private theorem Resolver.endures_resolve {project : String} {tags : List String} : (resolve project tags).Endures := by
  unfold resolve
  dsimp only
  split
  · trivial
  · refine Job.endures_metal.bind fun reservations => ?_
    split <;> exact .log_bind trivial

namespace Instance

variable {timeout : Option Duration} {name : Option String}

private theorem survives_readNode :
    (readNode timeout name).Survives fun given => ∀ node, given = .ok node →
      ∃ reported, node.addresses.mapM id = some reported := by
  refine Job.survives_cluster.bind ?_ fun _ _ => nofun
  rintro (fault | node) formed
  · exact .log_bind nofun
  · rintro _ ⟨⟩
    exact formed node rfl

private theorem endures_nodeAddresses : (nodeAddresses timeout name).Endures := by
  refine survives_readNode.bind (fun node formed => ?_) fun _ _ => trivial
  obtain ⟨reported, given⟩ := formed node rfl
  rw [given]
  trivial

private theorem endures_instanceId : (instanceId timeout name).Endures := by
  refine survives_readNode.endures.bind fun node => ?_
  split
  · trivial
  · split
    · trivial
    · split <;> trivial

end Instance

namespace Failover

variable {limits : Limits} {reservation : Reservation}

private theorem endures_reassign {device : String} : (reassign reservation device).Endures := by
  apply Job.endures_metal.andThen
  · exact fun _ _ => trivial
  · intro problem _
    dsimp only
    split
    · exact .log_bind trivial
    · trivial
  · exact fun _ => rfl

private theorem endures_move {device : String} : (move reservation device).Endures := by
  unfold move
  split
  next assignment _ =>
    have removing : (unassign reservation assignment).Endures := .log_bind Job.endures_metal
    exact removing.bind fun _ => endures_reassign.bind fun _ => trivial
  · exact Job.endures_metal.bind fun _ => trivial

private theorem endures_handOver {node : Option String} {address : String} :
    (handOver limits reservation node address).Endures :=
  Instance.endures_instanceId.bind fun _ => endures_move.bind fun _ => .log_bind trivial

private theorem endures_tryAddresses {port : Net.Port} {eipUrl : String} {node : Option String} {count : Nat}
    {addresses : List NodeAddress} : (tryAddresses limits port reservation eipUrl node count addresses).Endures := by
  induction addresses generalizing count with
  | nil => trivial
  | cons candidate addresses ih =>
    unfold tryAddresses
    split
    · exact .log_bind ih
    · dsimp only
      split
      · exact .log_bind ih
      · refine .log_bind (Health.endures_probe.bind fun health => ?_)
        split
        · exact endures_handOver.bind fun _ => trivial
        · cases health with
          | answered => exact .log_bind ih
          | unreachable => exact ih

private theorem endures_tryNodes {port : Net.Port} {eipUrl : String} {count : Nat} {nodes : List (Option Node)}
    (formed : Cluster.Call.listNodes.IsWellFormed nodes) :
    (tryNodes limits port reservation eipUrl count nodes).Endures := by
  induction nodes generalizing count with
  | nil => trivial
  | cons place nodes ih =>
    obtain ⟨⟨node, rfl, metadata, present⟩, others⟩ := List.forall_mem_cons.mp formed
    unfold tryNodes
    simp only [Option.bind_some, present]
    refine Instance.endures_nodeAddresses.bind fun addresses => endures_tryAddresses.bind fun trial => ?_
    cases trial with
    | moved => trivial
    | checked => exact ih others

theorem endures_run {nodes : List (Option Node)} {eipUrl : String}
    (formed : Cluster.Call.listNodes.IsWellFormed nodes) :
    (run limits nodes reservation eipUrl).Endures := by
  refine Job.endures_ports.bind fun ports => ?_
  dsimp only
  split
  · trivial
  · split
    · trivial
    · refine (endures_tryNodes formed).bind fun trial => ?_
      cases trial with
      | moved => trivial
      | checked => exact .log_bind trivial

end Failover

namespace NodePass

variable {setup : Setup} {nodes : List (Option Node)}

private theorem endures_refuseMultiple {part : Part} {reservation : Reservation} :
    (refuseMultiple part reservation).Endures := by
  unfold refuseMultiple
  dsimp only
  split
  · exact .log_bind trivial
  · trivial

private theorem endures_checkElastic {reservation : Reservation} {eipUrl : String} :
    (checkElastic setup reservation eipUrl).Endures := by
  unfold checkElastic
  split
  · exact .log_bind trivial
  · refine .log_bind (Health.endures_probe.bind fun health => ?_)
    split
    · trivial
    · cases health with
      | answered => exact .log_bind trivial
      | unreachable =>
        dsimp only
        split
        · trivial
        · exact .log_bind trivial

private theorem survives_controlPlane
    (formed : Cluster.Call.listNodes.IsWellFormed nodes) :
    (controlPlane nodes).Survives fun given => ∀ candidates, given = .ok candidates →
      ∀ node ∈ candidates, ∃ metadata, node.metadata = some metadata := by
  induction nodes with
  | nil =>
    rintro _ ⟨⟩
    simp
  | cons place nodes ih =>
    obtain ⟨⟨node, rfl, present⟩, others⟩ := List.forall_mem_cons.mp formed
    unfold controlPlane
    split
    · refine .log_bind ((ih others).bind (fun candidates later => ?_) (by rintro _ - _ ⟨⟩))
      rintro _ ⟨⟩
      exact List.forall_mem_cons.mpr ⟨present, later candidates rfl⟩
    · exact ih others

private theorem endures_startFailover {reservation : Reservation} {eipUrl : String}
    (formed : Cluster.Call.listNodes.IsWellFormed nodes) :
    (startFailover setup nodes reservation eipUrl).Endures := by
  apply (Failover.endures_run formed).andThen
  · exact fun _ _ => ⟨rfl, fun _ _ => trivial⟩
  · exact fun _ _ => .log_bind trivial
  · exact fun _ => rfl

private theorem endures_inside
    (formed : Cluster.Call.listNodes.IsWellFormed nodes) :
    (inside setup nodes).Endures := by
  refine Job.endures_ports.bind fun ports => ?_
  dsimp only
  split
  · trivial
  refine Resolver.endures_resolve.bind fun found => ?_
  split
  · trivial
  refine endures_refuseMultiple.bind fun _ => endures_checkElastic.bind fun healthy => ?_
  split
  · trivial
  refine (survives_controlPlane formed).bind (fun candidates later => ?_) fun _ _ => trivial
  apply endures_startFailover
  intro place member
  obtain ⟨node, among, rfl⟩ := List.mem_map.mp member
  exact ⟨node, rfl, later candidates rfl node among⟩

theorem endures_run
    (formed : Cluster.Call.listNodes.IsWellFormed nodes) :
    (run setup nodes).Endures := by
  refine .log_bind ⟨rfl, fun entered _ => ?_⟩
  cases entered with
  | false => exact ⟨rfl, fun _ _ => .log_bind trivial⟩
  | true =>
    apply (endures_inside formed).andThen
    · refine fun _ _ => ⟨rfl, ?_⟩
      rintro left rfl
      trivial
    · refine fun _ _ => ⟨rfl, ?_⟩
      rintro left rfl
      trivial
    · refine fun _ => ⟨rfl, ?_⟩
      rintro left rfl
      exact ⟨rfl, rfl⟩

end NodePass

namespace ServicePass

open Cluster (Endpoints)

variable {timeout : Option Duration}

private theorem endures_refuse {α : Type} {note message : String} {fault : Cluster.Fault} :
    Endures (refuse note message fault : Job α) := .log_bind trivial

private theorem endures_mirroredEndpoints : (mirroredEndpoints timeout).Endures := by
  refine Job.survives_cluster.endures.bind fun reply => ?_
  cases reply with
  | ok mine => trivial
  | error fault =>
    dsimp only
    split
    · exact .log_bind trivial
    · exact endures_refuse

private theorem endures_mirrorEndpoints {space name : String} : (mirrorEndpoints timeout space name).Endures := by
  refine Job.survives_cluster.endures.bind fun served => ?_
  cases served with
  | error => exact endures_refuse
  | ok served =>
    refine endures_mirroredEndpoints.bind fun (existed, mine) => ?_
    dsimp only
    split
    all_goals
      refine Job.survives_cluster.endures.bind fun written => ?_
      cases written with
      | ok => trivial
      | error => exact endures_refuse

private theorem survives_mirroredService :
    (mirroredService timeout).Survives fun given => ∀ service, given = .ok (some service) →
      ∃ spec, service.spec = some spec := by
  refine Job.survives_cluster.bind ?_ fun _ _ => nofun
  rintro (fault | existing) formed
  · dsimp only
    split
    · exact nofun
    · exact .log_bind nofun
  · rintro _ ⟨⟩
    exact formed existing rfl

private theorem endures_mirrorService {eip : String} {ports : List (Option ServicePort)} :
    (mirrorService timeout eip ports).Endures := by
  refine survives_mirroredService.bind (fun found formed => ?_) fun _ _ => trivial
  cases found with
  | none =>
    refine .log_bind (Job.survives_cluster.endures.bind fun written => ?_)
    cases written with
    | ok => trivial
    | error => exact endures_refuse
  | some existing =>
    obtain ⟨spec, present⟩ := formed existing rfl
    refine .log_bind ?_
    rw [present]
    refine Job.survives_cluster.endures.bind fun written => ?_
    cases written with
    | ok => trivial
    | error => exact endures_refuse

private theorem endures_publishStatus {eip : String} : (publishStatus timeout eip).Endures := by
  refine Job.survives_cluster.endures.bind fun found => ?_
  cases found with
  | error => exact endures_refuse
  | ok service =>
    refine Job.survives_cluster.endures.bind fun written => ?_
    cases written with
    | ok => exact .log_bind trivial
    | error => exact endures_refuse

private theorem endures_targetOf {port : ServicePort} {target : Net.Port} (points : targetIn port = .ok target) :
    (targetOf port).Endures := by
  unfold targetIn at points
  unfold targetOf
  rcases read : TargetPort.read port.port port.target with number | (_ | warning) | _
  · trivial
  · trivial
  · exact .log_bind trivial
  · rw [read] at points
    cases points

private theorem endures_mirror {space name eip : String} {first : ServicePort} {others : List (Option ServicePort)}
    {target : Net.Port} (points : targetIn first = .ok target) :
    (mirror timeout space name first others eip).Endures :=
  (endures_targetOf points).bind fun _ => Job.endures_observePort.bind fun _ =>
    endures_mirrorEndpoints.bind fun _ => endures_mirrorService.bind fun _ => endures_publishStatus

private theorem endures_mirrorFirst {mode : Mode} {eip : String} {services : List (Option Service)}
    (formed : Cluster.Call.listServices.IsWellFormed services) : (mirrorFirst timeout mode eip services).Endures := by
  induction services with
  | nil =>
    unfold mirrorFirst
    split
    · exact .log_bind trivial
    · trivial
  | cons place services ih =>
    obtain ⟨⟨service, rfl, ⟨metadata, present⟩, ports⟩, others⟩ := List.forall_mem_cons.mp formed
    unfold mirrorFirst
    simp only [present]
    split
    · rcases listed : service.spec.bind (·.ports) with _ | _ | ⟨place, others⟩
      · exact .log_bind trivial
      · exact .log_bind trivial
      · obtain ⟨first, target, rfl, points⟩ := ports _ listed place List.mem_cons_self
        exact (endures_mirror points).bind fun _ => trivial
    · exact ih others

theorem endures_run {setup : Setup} {mode : Mode} {services : List (Option Service)}
    (formed : Cluster.Call.listServices.IsWellFormed services) : (run setup services mode).Endures := by
  refine Resolver.endures_resolve.bind fun found => ?_
  split
  · trivial
  · exact NodePass.endures_refuseMultiple.bind fun _ => endures_mirrorFirst formed

end ServicePass

namespace Sync

variable {settings : Settings} {mode : ServicePass.Mode}

private theorem survives_half {α : Type} {name : String} {word : α → String} {pass : Job α} (endures : pass.Endures) :
    (half name word pass).Survives fun given => ∃ report, given = .ok report := by
  apply endures.andThen
  · exact fun _ _ => .log_bind ⟨_, rfl⟩
  · exact fun _ _ => .log_bind ⟨_, rfl⟩
  · exact fun _ => rfl

theorem endures_services : (services settings mode).Endures := by
  refine Job.survives_cluster.bind (fun reply formed => ?_) fun _ _ => trivial
  cases reply with
  | ok services => exact ServicePass.endures_run (formed services rfl)
  | error => trivial

private theorem endures_nodes : (nodes settings).Endures := by
  refine Job.survives_cluster.bind (fun reply formed => ?_) fun _ _ => trivial
  cases reply with
  | ok nodes => exact NodePass.endures_run (formed nodes rfl)
  | error => trivial

/-- Where the cluster gives well-formed objects, a sync ends in a report unless the interface replies with a
crash. -/
theorem survives_run : (run settings mode).Survives fun given => ∃ report, given = .ok report := by
  refine (survives_half endures_services).bind (fun (service, serviceProblems) _ => ?_) ?_
  · refine (survives_half endures_nodes).bind (fun (node, nodeProblems) _ => ⟨_, rfl⟩) ?_
    rintro problem ⟨_, ⟨⟩⟩
  · rintro problem ⟨_, ⟨⟩⟩

end Sync

end ElasticEndpoint
