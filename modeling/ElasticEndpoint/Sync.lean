import ElasticEndpoint.ServicePass

/-!
Syncs. A sync lists the services and runs a service pass, then lists the nodes and runs a node pass.
The ports are learned from the services, so they come first; a problem of one half is collected and
does not keep the other from running.
-/

namespace ElasticEndpoint

structure SyncReport where
  service : Option ServicePass.Outcome
  node : Option NodePass.Outcome
  problems : List Problem
  deriving DecidableEq

/-- A sync is well when it met no problem. -/
def SyncReport.isOk (report : SyncReport) : Bool := report.problems.isEmpty

namespace Settings

def callLimit (settings : Settings) : Option Duration := some (.real settings.apiTimeout)

def probeLimit (settings : Settings) : Option Duration := some (.real settings.probeTimeout)

def nodeSetup (settings : Settings) : NodePass.Setup where
  project := settings.projectId
  tag := settings.eipTag
  policy := settings.policy
  limits := ⟨settings.callLimit, settings.probeLimit⟩

def serviceSetup (settings : Settings) : ServicePass.Setup where
  project := settings.projectId
  tag := settings.eipTag
  timeout := settings.callLimit

end Settings

namespace Sync

/-- The value of one half of a sync, or the problem that ended it, which is recorded. -/
def half {α : Type} (name : String) (word : α → String) (pass : Job α) : Job (Option α × List Problem) :=
  pass.andThen fun
    | .ok outcome => do
      Job.log .manager .info s!"{name} reconciliation: {word outcome}"
      return (some outcome, [])
    | .error (.problem problem) => do
      Job.log .manager .error s!"{name} reconciliation failed: {problem.message}"
      return (none, [problem])
    | .error failure => .fail failure

def services (settings : Settings) (mode : ServicePass.Mode) : Job ServicePass.Outcome := do
  match ← Job.cluster .listServices settings.callLimit with
  | .ok services => ServicePass.run settings.serviceSetup services mode
  | .error fault => Job.problem (.cluster "Failed to list services" fault.description)

def nodes (settings : Settings) : Job NodePass.Outcome := do
  match ← Job.cluster .listNodes settings.callLimit with
  | .ok nodes => NodePass.run settings.nodeSetup nodes
  | .error fault => Job.problem (.cluster "Failed to list nodes" fault.description)

def run (settings : Settings) (mode : ServicePass.Mode) : Job SyncReport := do
  let (service, serviceProblems) ← half "Service" ServicePass.Outcome.word (services settings mode)
  let (node, nodeProblems) ← half "Node" NodePass.Outcome.word (nodes settings)
  return ⟨service, node, serviceProblems ++ nodeProblems⟩

end Sync

end ElasticEndpoint
