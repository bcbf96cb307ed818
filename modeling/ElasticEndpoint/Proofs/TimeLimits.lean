import ElasticEndpoint.Proofs.ClientRequests
import ElasticEndpoint.Proofs.WorldActs
import ElasticEndpoint.CommandLine.Work

/-!
Time limits. Whatever the replies are, every call to the cluster and every request to the cloud interface has the time
limit of calls, and every health check that of health checks.
-/

namespace ElasticEndpoint

/-- What leaves a manager is bounded: a call to the cluster and a request with the key by the time limit of calls, and
a health check, which goes without the key, by that of health checks. Calls to the cloud interface are made as requests
over HTTP. -/
def Settings.Bounds (settings : Settings) (key : String) : Request → Prop
  | .cluster _ timeout => timeout = some (.real settings.apiTimeout)
  | .http request =>
    (∃ url, request = Health.request (some (.real settings.probeTimeout)) url) ∨
      ("X-Auth-Token", key) ∈ request.headers ∧ request.timeout = some (.real settings.apiTimeout)
  | .metal _ => False
  | _ => True

/-- What a manager is asked for: a sync, or a pass over what it is given. -/
inductive Task where
  | sync (mode : ServicePass.Mode)
  | services (given : List (Option Cluster.Service)) (mode : ServicePass.Mode)
  | nodes (given : List (Option Cluster.Node))

namespace Task

/-- A task as a job, whatever it ends in. -/
def job (settings : Settings) : Task → Job Unit
  | .sync mode => (Sync.run settings mode).andThen fun _ => pure ()
  | .services given mode => (ServicePass.run settings.serviceSetup given mode).andThen fun _ => pure ()
  | .nodes given => (NodePass.run settings.nodeSetup given).andThen fun _ => pure ()

/-- Tasks one after another, with their calls to the cloud interface made by a client. -/
def performAll (settings : Settings) (client : Metal.Client) : List Task → Job Unit
  | [] => pure ()
  | task :: rest => (client.connect (task.job settings)).andThen fun _ => performAll settings client rest

end Task

section

variable {settings : Settings} {key : String}

/-- Whether a request is bounded, calls to the cloud interface apart. -/
abbrev Settings.BoundsOther (settings : Settings) (key : String) (request : Request) : Prop :=
  request.isMetal = false → settings.Bounds key request

open Settings (BoundsOther)

private theorem NodePass.bounded_run (nodes : List (Option Cluster.Node)) :
    (run settings.nodeSetup nodes).Uses (BoundsOther settings key) := by
  apply uses_run_of_inside
  · exact fun _ _ => trivial
  · exact fun _ => trivial
  · exact fun _ => trivial
  · exact fun _ => trivial
  · apply Allows.inside
    constructor
    · constructor
      · exact fun _ _ => trivial
      · exact fun _ => trivial
      · exact fun _ _ => rfl
      · exact fun url _ => .inl ⟨url, rfl⟩
      · exact fun _ _ => nofun
      · exact fun _ => nofun
    · exact fun _ _ => trivial
    · exact nofun

private theorem ServicePass.bounded_run (services : List (Option Cluster.Service)) (mode : Mode) :
    (run settings.serviceSetup services mode).Uses (BoundsOther settings key) := by
  apply Program.Honours.uses
  apply honours_run
  · exact fun _ _ => trivial
  · exact nofun
  · exact fun _ _ => trivial
  · intros
    exact fun _ => rfl

namespace Sync

private theorem bounded_half {α : Type} (name : String) (word : α → String) {pass : Job α}
    (bounded : pass.Uses (BoundsOther settings key)) : (half name word pass).Uses (BoundsOther settings key) := by
  apply bounded.andThen
  intro result
  rcases result with (problem | crash) | outcome
  · exact ⟨fun _ => trivial, fun _ => trivial⟩
  · trivial
  · exact ⟨fun _ => trivial, fun _ => trivial⟩

private theorem bounded_services (mode : ServicePass.Mode) : (services settings mode).Uses (BoundsOther settings key) := by
  refine .bind (Job.uses_cluster fun _ => rfl) fun listed => ?_
  cases listed with
  | ok services => exact ServicePass.bounded_run services mode
  | error fault => trivial

private theorem bounded_nodes : (nodes settings).Uses (BoundsOther settings key) := by
  refine .bind (Job.uses_cluster fun _ => rfl) fun listed => ?_
  cases listed with
  | ok nodes => exact NodePass.bounded_run nodes
  | error fault => trivial

private theorem bounded_run (mode : ServicePass.Mode) : (run settings mode).Uses (BoundsOther settings key) := by
  apply Program.Uses.bind (bounded_half _ _ (bounded_services mode))
  intro services
  exact .bind (bounded_half _ _ bounded_nodes) fun nodes => trivial

end Sync

private theorem Task.bounded_job (task : Task) : (task.job settings).Uses (BoundsOther settings key) := by
  cases task with
  | sync mode => exact (Sync.bounded_run mode).andThen fun _ => True.intro
  | services given mode => exact (ServicePass.bounded_run given mode).andThen fun _ => True.intro
  | nodes given => exact (NodePass.bounded_run given).andThen fun _ => True.intro

private theorem Task.bounded_all (pageLimit : Nat) (tasks : List Task) :
    (performAll settings (CommandLine.clientFor settings key pageLimit) tasks).Uses (settings.Bounds key) := by
  induction tasks with
  | nil => trivial
  | cons task rest ih =>
    refine Program.Uses.andThen ?_ fun _ => ih
    apply Metal.Client.uses_connect
    · exact fun _ => trivial
    · exact fun _ _ _ _ => .inr ⟨List.mem_cons_self, rfl⟩
    · exact task.bounded_job

end

/-- Everything that leaves a manager is bounded, in every run of tasks and whatever the surroundings reply. -/
theorem Task.every_call_bounded (settings : Settings) (key : String) (pageLimit : Nat) (tasks : List Task)
    {history : List Act} {result : Except Failure Unit}
    (ended : (performAll settings (CommandLine.clientFor settings key pageLimit) tasks).Ends history result) :
    ∀ act ∈ history, settings.Bounds key act.request :=
  (bounded_all pageLimit tasks).ends ended

/-- The cloud interface answers the first request for a page only. -/
def World.fallingSilent : World where
  ledger := []
  script := .byTarget [("GET https://api/projects/project/ips",
    [.answered 200 [123, 125], .failed "ReadTimeout" "timed out"])]
  ports := ⟨.number 6443, .number 6443, true⟩

/-- Two seconds for a health check and seven for a call. -/
def Settings.impatient : Settings where
  projectId := "project"
  eipTag := "eip"
  apiKey := none
  apiUrl := "https://api/"
  apiServerPort := 6443
  probeTimeout := Decimal.Binary64.ofInt 2
  apiTimeout := Decimal.Binary64.ofInt 7
  interval := 30
  policy := .unhealthy

namespace Task

/-- Syncs and passes go on after failed ones, and all they ask for is bounded. -/
theorem every_call_bounded_fallingSilent :
    let job := performAll .impatient (CommandLine.clientFor .impatient "key" 10) [.sync .sync, .nodes [], .sync .add]
    Act.urls (job.history World.answer .fallingSilent) = List.replicate 5 "https://api/projects/project/ips" ∧
      ∀ act ∈ job.history World.answer .fallingSilent, Settings.impatient.Bounds "key" act.request := by
  refine ⟨by decide +kernel, ?_⟩
  exact every_call_bounded .impatient "key" 10 [.sync .sync, .nodes [], .sync .add]
    (Program.ends_history World.answer _ World.fallingSilent)

end Task

end ElasticEndpoint
