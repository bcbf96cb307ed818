import ElasticEndpoint.Proofs.Assignments
import ElasticEndpoint.Proofs.SyncSurvival
import ElasticEndpoint.Proofs.WellFormedWorld

/-!
Isolation of the halves of a sync. Whatever faults are due, a sync comes to a report in which each half has its
outcome or its problem, and its node pass is the one that would run alone from where the service half stopped.
-/

namespace ElasticEndpoint

open World (answer)

/-- The listing that a request asks the cluster for. -/
def Request.listing? : Request → Option Cluster.Call
  | .cluster .listServices _ => some .listServices
  | .cluster .listNodes _ => some .listNodes
  | _ => none

/-- The listings asked for among some acts, in order. -/
def Act.listings (acts : List Act) : List Cluster.Call := acts.filterMap (·.request.listing?)

theorem Act.listings_append (first rest : List Act) : listings (first ++ rest) = listings first ++ listings rest :=
  List.filterMap_append

theorem Act.listings_eq_nil {acts : List Act} (none : ∀ act ∈ acts, act.request.listing? = none) : listings acts = [] :=
  List.filterMap_eq_nil_iff.mpr none

private theorem ServicePass.unlisted_run (setup : Setup) (services : List (Option Cluster.Service)) (mode : Mode) :
    (run setup services mode).Uses fun request => request.listing? = none := by
  apply Program.Honours.uses
  apply honours_run
  · exact fun _ => rfl
  · rfl
  · exact fun _ => rfl
  · intro before target _ eip first others call publishing
    cases publishing <;> rfl

namespace NodePass

private theorem unlisted_run (setup : Setup) (nodes : List (Option Cluster.Node)) :
    (run setup nodes).Uses fun request => request.listing? = none := by
  apply (uses_run setup nodes).imp
  intro request kind
  cases request with
  | cluster call timeout =>
    cases call with
    | listServices | listNodes => rcases kind with impossible | impossible <;> cases impossible
    | _ => rfl
  | _ => rfl

/-- In a well-formed world a node pass is answered well, and leaves the guard it entered. -/
theorem good_run {world : World} (formed : world.IsWellFormed) (setup : Setup) (nodes : List (Option Cluster.Node)) :
    ∀ act ∈ world.acts (run setup nodes), act.IsGood := by
  obtain ⟨last, answered, -⟩ := world.run_answers (run setup nodes)
  have done := world.does_acts (run setup nodes)
  generalize world.acts (run setup nodes) = acts at answered done
  rcases does_run.mp done with ⟨state, rfl, -⟩ | ⟨within, middle, left, rfl, inside, -⟩
  · intro act member
    rcases List.mem_cons.mp member with rfl | member
    · exact ⟨trivial, rfl⟩
    · obtain rfl := List.mem_singleton.mp member
      exact ⟨trivial, rfl⟩
  · have work : ∀ act ∈ within, act.request.isNodeWork = true := Job.uses_acts (work_inside setup nodes) inside
    obtain ⟨rfl, ended, told, -⟩ :=
      World.answers_guarded (fun act member => Request.unguarded_of_work (work act member)) answered
    have busy : ({ world with guard := .busy } : World).IsWellFormed :=
      ⟨formed.clusterFaults, formed.metalFaults, formed.script, formed.services, formed.endpoints, formed.nodes⟩
    obtain ⟨good, -⟩ := told.along (fun act member => Request.isFormed_of_work (work act member))
      (fun request state asked kept => World.IsWellFormed.answer kept (.inl asked)) busy
    intro act member
    rcases List.mem_cons.mp member with rfl | member
    · exact ⟨trivial, rfl⟩
    · rcases List.mem_append.mp member with member | member
      · exact good act member
      · obtain rfl := List.mem_singleton.mp member
        exact ⟨rfl, rfl⟩

end NodePass

/-- A job that survives ends in a value or a problem where it is answered well. -/
theorem Job.Survives.settles {α : Type} {post : Except Problem α → Prop} {job : Job α} (survives : job.Survives post)
    {world : World} (good : ∀ act ∈ world.acts job, act.IsGood) :
    ∃ ended : Except Problem α, (world.run job).1 = ended.mapError .problem := by
  obtain ⟨-, crashes, -⟩ := survives.does (world.does_acts job) fun act member => (good act member).1
  rcases result : (world.run job).1 with (problem | crash) | value
  · exact ⟨.error problem, rfl⟩
  · obtain ⟨act, member, told⟩ := (crashes crash).mpr result
    rw [(good act member).2] at told
    cases told
  · exact ⟨.ok value, rfl⟩

namespace Sync

variable {settings : Settings} {mode : ServicePass.Mode} {world : World}

/-- A half of a sync records how its pass ended, and keeps that. -/
theorem half_run {α : Type} {pass : Job α} {ended : Except Problem α} (name : String) (word : α → String)
    (passed : (world.run pass).1 = ended.mapError .problem) :
    ∃ record, world.run (half name word pass) =
        (.ok (ended.toOption, problemsIn ended), (world.run pass).2.note (.log record)) ∧
      world.acts (half name word pass) = world.acts pass := by
  unfold half
  rw [World.run_andThen, World.acts_andThen, passed]
  cases ended with
  | ok outcome => exact ⟨_, rfl, List.append_nil _⟩
  | error problem => exact ⟨_, rfl, List.append_nil _⟩

/-- How the node half goes on from where the service half left: the nodes are listed, and a pass runs on them alone. -/
inductive NodeHalf (settings : Settings) (left : World) : Except Problem NodePass.Outcome → List Act → World → Prop where
  | unlisted {fault listed}
      (failed : answer (.cluster .listNodes settings.callLimit) left = (.error (.fault fault), listed)) :
      NodeHalf settings left (.error (.cluster "Failed to list nodes" fault.description))
        [.cluster .listNodes settings.callLimit (.error (.fault fault))] listed
  | passed {listed ended}
      (told : answer (.cluster .listNodes settings.callLimit) left = (.ok left.cluster.nodes, listed))
      (only : World.Same listed { left with clusterFaults := (left.clusterFaults.next .listNodes).2 })
      (pass : (listed.run (NodePass.run settings.nodeSetup left.cluster.nodes)).1 = ended.mapError .problem) :
      NodeHalf settings left ended
        (.cluster .listNodes settings.callLimit (.ok left.cluster.nodes) ::
          listed.acts (NodePass.run settings.nodeSetup left.cluster.nodes))
        (listed.run (NodePass.run settings.nodeSetup left.cluster.nodes)).2

/-- The service half is answered well, and lists the services once. -/
theorem good_services (formed : world.IsWellFormed)
    (listed : Cluster.Call.IsWellFormed .listServices world.cluster.services) :
    (∀ act ∈ world.acts (services settings mode), act.IsGood) ∧ (world.run (services settings mode)).2.IsWellFormed ∧
      Act.listings (world.acts (services settings mode)) = [.listServices] := by
  obtain ⟨given, after, told, good, kept⟩ := formed.told (.inr ⟨settings.callLimit, rfl, listed⟩)
  obtain ⟨ran, acted⟩ : world.run (services settings mode) = _ ∧ world.acts (services settings mode) = _ :=
    World.run_cluster_bind told _
  rw [ran, acted]
  cases given with
  | error fault =>
    refine ⟨fun act member => ?_, kept, rfl⟩
    obtain rfl := List.mem_singleton.mp member
    exact good
  | ok services =>
    obtain ⟨others, last⟩ := kept.run (ServicePass.formed_run settings.serviceSetup services mode)
    refine ⟨List.forall_mem_cons.mpr ⟨good, others⟩, last, ?_⟩
    have unlisted := Act.listings_eq_nil (Job.uses_acts (ServicePass.unlisted_run settings.serviceSetup services mode)
      (after.does_acts _))
    exact congrArg (Cluster.Call.listServices :: ·) unlisted

/-- A listing of the nodes that is answered tells all of them, and only takes from its queue. -/
theorem told_nodes {listed : List (Option Cluster.Node)} {timeout : Option Duration} {after : World}
    (told : answer (.cluster .listNodes timeout) world = (.ok listed, after)) :
    listed = world.cluster.nodes ∧
      World.Same after { world with clusterFaults := (world.clusterFaults.next .listNodes).2 } := by
  simp only [answer, World.note] at told
  rcases due : world.clusterFaults.next .listNodes with ⟨_ | failure, faults⟩
  · rw [show Cluster.Call.method .listNodes = .listNodes from rfl, due] at told
    cases told
    exact ⟨rfl, rfl⟩
  · rw [show Cluster.Call.method .listNodes = .listNodes from rfl, due] at told
    cases told

/-- The node half is a listing of the nodes with a pass on them, answered well. -/
theorem nodeHalf_run (settings : Settings) (formed : world.IsWellFormed) :
    ∃ ended last, NodeHalf settings world ended (world.acts (nodes settings)) last ∧
      world.run (nodes settings) = (ended.mapError .problem, last) ∧
      Act.listings (world.acts (nodes settings)) = [.listNodes] := by
  have asked : world.Serves (.cluster .listNodes settings.callLimit) := .inl trivial
  obtain ⟨given, after, told, good, kept⟩ := formed.told asked
  obtain ⟨ran, acted⟩ : world.run (nodes settings) = _ ∧ world.acts (nodes settings) = _ :=
    World.run_cluster_bind told _
  cases given with
  | error fault =>
    rw [ran, acted]
    exact ⟨_, after, .unlisted told, rfl, rfl⟩
  | ok listed =>
    obtain ⟨rfl, only⟩ := told_nodes told
    have acting := NodePass.good_run kept settings.nodeSetup world.cluster.nodes
    obtain ⟨ended, passed⟩ := (NodePass.endures_run good.1).settles acting
    have unlisted := Act.listings_eq_nil (Job.uses_acts (NodePass.unlisted_run settings.nodeSetup world.cluster.nodes)
      (after.does_acts _))
    rw [ran, acted]
    refine ⟨ended, _, .passed told only passed, Prod.ext passed rfl, ?_⟩
    exact congrArg (Cluster.Call.listNodes :: ·) unlisted

/-- What a sync comes to when its halves end as given. Each has its outcome or its one problem in the report, and
the node half goes on from where the service half left. -/
structure Isolates (settings : Settings) (mode : ServicePass.Mode) (world : World)
    (service : Except Problem ServicePass.Outcome) (node : Except Problem NodePass.Outcome) : Prop where
  serviceHalf : (world.run (services settings mode)).1 = service.mapError .problem
  report : (world.run (run settings mode)).1 =
    .ok ⟨service.toOption, node.toOption, problemsIn service ++ problemsIn node⟩
  ok : ∀ report, (world.run (run settings mode)).1 = .ok report →
    (report.isOk = true ↔ report.service.isSome = true ∧ report.node.isSome = true)
  listings : Act.listings (world.acts (run settings mode)) = [.listServices, .listNodes]
  nodeHalf : ∃ acts last record,
    NodeHalf settings (world.run (half "Service" ServicePass.Outcome.word (services settings mode))).2 node acts last ∧
      world.acts (run settings mode) = world.acts (services settings mode) ++ acts ∧
      (world.run (run settings mode)).2 = last.note (.log record)

/-- Whatever faults are due, a sync of well-formed objects comes to a report, and keeps its halves apart. -/
theorem isolated (world : World) (formed : world.IsWellFormed)
    (listed : Cluster.Call.IsWellFormed .listServices world.cluster.services) (settings : Settings)
    (mode : ServicePass.Mode) : ∃ service node, Isolates settings mode world service node := by
  obtain ⟨good, kept, first⟩ := good_services formed listed
  obtain ⟨service, mirrored⟩ := endures_services.settles good
  obtain ⟨record, served, acted⟩ := half_run "Service" ServicePass.Outcome.word mirrored
  have noted : ((world.run (services settings mode)).2.note (.log record)).IsWellFormed :=
    ⟨kept.clusterFaults, kept.metalFaults, kept.script, kept.services, kept.endpoints, kept.nodes⟩
  obtain ⟨node, last, goesOn, passed, second⟩ := nodeHalf_run settings noted
  obtain ⟨final, guarded, actedToo⟩ := half_run "Node" NodePass.Outcome.word (congrArg Prod.fst passed)
  rw [congrArg Prod.snd passed] at guarded
  -- The halves one after the other are the sync, and what they leave is put together in its report.
  obtain ⟨ranFirst, actedFirst⟩ : world.run (run settings mode) = _ ∧ world.acts (run settings mode) = _ :=
    World.run_bind_ok served _
  obtain ⟨ranSecond, actedSecond⟩ := World.run_bind_ok guarded fun outcome =>
    (pure ⟨service.toOption, outcome.1, problemsIn service ++ outcome.2⟩ : Job SyncReport)
  have ran : world.run (run settings mode) =
      (.ok ⟨service.toOption, node.toOption, problemsIn service ++ problemsIn node⟩, last.note (.log final)) :=
    ranFirst.trans ranSecond
  have acts : world.acts (run settings mode) = world.acts (services settings mode) ++
      ((world.run (services settings mode)).2.note (.log record)).acts (nodes settings) := by
    rw [← acted, ← actedToo]
    exact actedFirst.trans (congrArg (_ ++ ·) (actedSecond.trans (List.append_nil _)))
  refine ⟨service, node, mirrored, congrArg Prod.fst ran, ?_, ?_, ?_⟩
  · intro report reported
    rw [ran] at reported
    cases reported
    cases service <;> cases node <;> simp [SyncReport.isOk, problemsIn, Except.toOption]
  · rw [acts, Act.listings_append, first, second]
    rfl
  · refine ⟨_, last, final, ?_, acts, congrArg Prod.snd ran⟩
    rw [served]
    exact goesOn

/-- A cluster that does not list its services while the move of its address cannot be completed either. -/
def outage : World :=
  { World.aboutToLose with clusterFaults := Schedule.clear.set .listServices [some (.fault (.answer (some 503) none))] }

def outageSettings : Settings :=
  ⟨"project", "eip", none, Settings.defaultApiUrl, 6443, Settings.defaultProbeTimeout, Settings.defaultApiTimeout, 30,
    .unhealthy⟩

theorem isolated_outage :
    outage.IsWellFormed ∧ Cluster.Call.IsWellFormed .listServices outage.cluster.services ∧
      ∃ service node, Isolates outageSettings .sync outage service node ∧
        service.toOption = none ∧ node.toOption = none := by
  have formed : outage.IsWellFormed := by
    constructor
    · intro kind crash
      cases kind <;> simp [outage, Schedule.set, Schedule.clear]
    · intro kind crash
      cases kind <;> simp [outage, World.aboutToLose, Schedule.set, Schedule.clear]
    · simp [outage, World.aboutToLose, Http.Script.IsWhole]
    · exact fun _ => nofun
    · exact nofun
    · intro place member
      obtain rfl := List.mem_singleton.mp member
      exact ⟨_, rfl, ⟨_, rfl⟩, _, rfl⟩
  have listed : Cluster.Call.IsWellFormed .listServices outage.cluster.services := fun _ => nofun
  obtain ⟨service, node, isolates⟩ := isolated outage formed listed outageSettings .sync
  have down : (outage.run (run outageSettings .sync)).1.map (fun report => (report.service, report.node)) =
      .ok (none, none) := by rfl
  rw [isolates.report] at down
  obtain ⟨first, second⟩ := Prod.mk.inj (Except.ok.inj down)
  exact ⟨formed, listed, service, node, isolates, first, second⟩

end Sync

end ElasticEndpoint
