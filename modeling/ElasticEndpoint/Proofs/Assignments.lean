import Mathlib.Data.List.Nodup
import ElasticEndpoint.Proofs.PassEffect
import ElasticEndpoint.Sync

/-!
Assignments over whole runs. No sequence of passes, syncs and other events gives a reservation a second
assignment, and a pass that leaves a reservation without one accounts for it in its result.
-/

namespace ElasticEndpoint

namespace Metal.Ledger

/-- Addresses are reserved once, and no reservation is assigned twice. -/
structure Tidy (ledger : Ledger) : Prop where
  distinct : (ledger.map Reservation.address).Nodup
  single : ∀ reservation ∈ ledger, reservation.assignments.length ≤ 1

def without (assignmentId : String) (reservation : Reservation) : Reservation :=
  { reservation with assignments := reservation.assignments.filter (·.id != assignmentId) }

/-- A reservation with an assignment made, if it is the one of the address. -/
def given (instanceId address : String) (reservation : Reservation) : Reservation :=
  if reservation.address = address then
    { reservation with assignments := reservation.assignments ++ [newAssignment instanceId address] }
  else reservation

variable {ledger : Ledger} {instanceId address assignmentId : String} {reservation : Reservation}

theorem unassign_eq_map : ledger.unassign assignmentId = ledger.map (without assignmentId) := rfl

/-- Where addresses are reserved once, an assignment concerns all reservations of its address. -/
theorem assign_eq_map (distinct : (ledger.map Reservation.address).Nodup) :
    ledger.assign instanceId address = ledger.map (given instanceId address) := by
  induction ledger with
  | nil => rfl
  | cons reservation rest ih =>
    rw [List.map_cons, List.nodup_cons] at distinct
    rw [assign, List.map_cons]
    by_cases named : reservation.address = address
    · have others : rest.map (given instanceId address) = rest.map id := by
        refine List.map_congr_left fun other member => if_neg fun same => distinct.1 ?_
        rw [named, ← same]
        exact List.mem_map_of_mem member
      rw [if_pos (by simpa using named), others, List.map_id, given, if_pos named]
    · rw [if_neg (by simpa using named), ih distinct.2, given, if_neg named]

@[simp]
theorem without_address : (without assignmentId reservation).address = reservation.address := rfl

@[simp]
theorem without_tags : (without assignmentId reservation).tags = reservation.tags := rfl

@[simp]
theorem given_address : (given instanceId address reservation).address = reservation.address := by
  unfold given
  split <;> rfl

@[simp]
theorem given_id : (given instanceId address reservation).id = reservation.id := by
  unfold given
  split <;> rfl

@[simp]
theorem given_tags : (given instanceId address reservation).tags = reservation.tags := by
  unfold given
  split <;> rfl

theorem firstWith_map {tags : List String} {change : Reservation → Reservation}
    (same : ∀ reservation, (change reservation).tags = reservation.tags) :
    Reservation.firstWith tags (ledger.map change) = (Reservation.firstWith tags ledger).map change := by
  have tagged : ((·.hasAllTags tags) ∘ change : Reservation → Bool) = (·.hasAllTags tags) := by
    funext reservation
    simp [Reservation.hasAllTags, same]
  rw [Reservation.firstWith, List.find?_map, tagged]
  rfl

theorem Tidy.unassign (tidy : Tidy ledger) : Tidy (ledger.unassign assignmentId) where
  distinct := by
    rw [unassign_eq_map, List.map_map]
    exact tidy.distinct
  single := by
    intro reservation member
    obtain ⟨former, present, rfl⟩ := List.mem_map.mp member
    exact Nat.le_trans (List.length_filter_le ..) (tidy.single former present)

theorem Tidy.assign (tidy : Tidy ledger)
    (free : ∀ reservation ∈ ledger, reservation.address = address → reservation.assignments = []) :
    Tidy (ledger.assign instanceId address) := by
  rw [assign_eq_map tidy.distinct]
  constructor
  · rw [List.map_map]
    simpa [Function.comp_def] using tidy.distinct
  · intro reservation member
    obtain ⟨former, present, rfl⟩ := List.mem_map.mp member
    unfold given
    split
    · simp [free former present ‹_›]
    · exact tidy.single former present

/-- A reservation is told by its address. -/
theorem Tidy.unique (tidy : Tidy ledger) {other : Reservation} (member : reservation ∈ ledger) (present : other ∈ ledger)
    (same : other.address = reservation.address) : other = reservation :=
  List.inj_on_of_nodup_map tidy.distinct present member same

end Metal.Ledger

namespace NodePass

open Metal.Ledger

variable {tag : String} {ledger after : Metal.Ledger} {last lastAfter : Option Move} {due : Option Failure}
  {result : Except Failure Outcome}

/-- The ledger after a move is the one before with the reservation changed, if it had no assignment or that one
is removed. -/
theorem Effect.tidy (effect : Effect tag ledger last due result after lastAfter) (tidy : Tidy ledger) : Tidy after := by
  cases effect with
  | none => exact tidy
  | given move matched free =>
    refine tidy.assign fun other present same => ?_
    rw [tidy.unique (List.mem_of_find?_eq_some matched) present same]
    exact free
  | @moved reservation assignment move matched bound =>
    refine tidy.unassign.assign fun other present same => ?_
    obtain ⟨former, member, rfl⟩ := List.mem_map.mp present
    rw [tidy.unique (List.mem_of_find?_eq_some matched) member same]
    simp [bound]
  | lost => exact tidy.unassign

/-- A pass that leaves its reservation without its assignment met the failure of an assignment. One of the
cloud interface it reports as an incomplete move, with its status and as its cause; any other it hands on. -/
def Raises (failure : Failure) (result : Except Failure Outcome) : Prop :=
  (∃ cause problem, failure = .problem cause ∧ cause.family.isMetal = true ∧ result = .error (.problem problem) ∧
    problem.family = .moveIncomplete cause.family.status? ∧ problem.following = some cause.family) ∨
  (∀ cause, failure = .problem cause → cause.family.isMetal = false) ∧ result = .error failure

private theorem raises_incomplete (reservation : Reservation) (device : String) (failure : Failure) :
    Raises failure (.error (Failover.incomplete reservation device failure)) := by
  cases failure with
  | crash crash => exact .inr ⟨nofun, rfl⟩
  | problem cause =>
    by_cases metal : cause.family.isMetal = true
    · refine .inl ⟨cause, .moveIncomplete reservation.address device cause, rfl, metal, ?_, rfl, rfl⟩
      simp [Failover.incomplete, metal]
    · refine .inr ⟨?_, by simp [Failover.incomplete, metal]⟩
      rintro _ ⟨⟩
      simpa using metal

/-- How a pass accounts for the reservation it is about, and for the move it remembers. -/
structure Accounts (tag : String) (before : World) (result : Except Failure Outcome) (after : World) : Prop where
  kept : (Reservation.firstWith [tag] after.ledger).map (fun reservation => (reservation.id, reservation.address)) =
    (Reservation.firstWith [tag] before.ledger).map fun reservation => (reservation.id, reservation.address)
  lost : ∀ former present, Reservation.firstWith [tag] before.ledger = some former →
    Reservation.firstWith [tag] after.ledger = some present → former.assignments ≠ [] → present.assignments = [] →
    ∃ failure, (before.metalFaults.next .assign).1 = some failure ∧ Raises failure result
  moved : result = .ok .reassigned → ∃ present assignment move,
    Reservation.firstWith [tag] after.ledger = some present ∧ present.assignments = [assignment] ∧
      after.lastMove = some move ∧ assignment.device = some move.instanceId
  remembered : after.lastMove ≠ before.lastMove → result = .ok .reassigned

private theorem Affects.accounts {before last : World} (affects : Affects tag before result last) (tidy : Tidy before.ledger) :
    Accounts tag before result last := by
  unfold Affects at affects
  generalize listed : last.ledger = ledger at affects
  generalize remembers : last.lastMove = lastMove at affects
  cases affects with
  | none unmoved =>
    refine ⟨by rw [listed], ?_, fun same => absurd same unmoved, fun changed => absurd remembers changed⟩
    intro former present before after bound free
    rw [listed, before] at after
    cases after
    exact absurd free bound
  | @given reservation move matched free =>
    have present : Reservation.firstWith [tag] last.ledger =
        some (Metal.Ledger.given move.instanceId reservation.address reservation) := by
      rw [listed, assign_eq_map tidy.distinct, firstWith_map (fun _ => given_tags), matched]
      rfl
    refine ⟨by simp [present, matched], ?_, fun _ => ?_, fun _ => rfl⟩
    · intro former _ before _ bound
      rw [matched] at before
      cases before
      exact absurd free bound
    · exact ⟨_, Metal.newAssignment move.instanceId reservation.address, move, present, by simp [Metal.Ledger.given, free], remembers, rfl⟩
  | @moved reservation assignment move matched bound =>
    have present : Reservation.firstWith [tag] last.ledger = some (Metal.Ledger.given move.instanceId reservation.address
        (without assignment.id reservation)) := by
      rw [listed, assign_eq_map tidy.unassign.distinct, firstWith_map (fun _ => given_tags), unassign_eq_map,
        firstWith_map (fun _ => without_tags), matched]
      rfl
    refine ⟨by simp [present, matched, without], ?_, fun _ => ?_, fun _ => rfl⟩
    · intro former after before shown _ free
      rw [present] at shown
      cases shown
      simp [Metal.Ledger.given] at free
    · exact ⟨_, Metal.newAssignment move.instanceId reservation.address, move, present, by simp [Metal.Ledger.given, without, bound], remembers, rfl⟩
  | @lost reservation assignment device failure matched bound failed =>
    refine ⟨?_, ?_, nofun, fun changed => absurd remembers changed⟩
    · rw [listed, unassign_eq_map, firstWith_map (fun _ => without_tags), matched]
      rfl
    · intro _ _ _ _ _ _
      exact ⟨failure, failed, raises_incomplete reservation device failure⟩

end NodePass

/-- Something that happens to the program: a pass, a sync, an observation of the port, a use of the guard, or a
change of everything outside but the reservations. -/
inductive Action where
  | nodePass (setup : NodePass.Setup) (nodes : List (Option Cluster.Node))
  | servicePass (setup : ServicePass.Setup) (services : List (Option Cluster.Service)) (mode : ServicePass.Mode)
  | sync (settings : Settings) (mode : ServicePass.Mode)
  | observePort (port : Net.Port)
  | enterGuard
  | leaveGuard
  | outside (cluster : Cluster.Store) (clusterFaults : Schedule Cluster.Method Cluster.CallFailure)
      (metalFaults : Schedule Metal.Method Failure) (script : Http.Script)

namespace World

def afterAction (world : World) : Action → World
  | .nodePass setup nodes => (world.run (NodePass.run setup nodes)).2
  | .servicePass setup services mode => (world.run (ServicePass.run setup services mode)).2
  | .sync settings mode => (world.run (Sync.run settings mode)).2
  | .observePort port => (world.run (Job.observePort port)).2
  | .enterGuard => { world with guard := world.guard.tryEnter.2 }
  | .leaveGuard => { world with guard := world.guard.leave.2 }
  | .outside cluster clusterFaults metalFaults script => { world with cluster, clusterFaults, metalFaults, script }

def afterActions (world : World) (actions : List Action) : World := actions.foldl afterAction world

end World

namespace Sync

/-- How a report tells the result of the node pass of a sync. -/
def Shows (result : Except Failure SyncReport) : Except Failure NodePass.Outcome → Prop
  | .ok outcome => ∃ report, result = .ok report ∧ report.node = some outcome
  | .error (.problem problem) => ∃ report, result = .ok report ∧ report.node = none ∧ problem ∈ report.problems
  | .error (.crash crash) => result = .error (.crash crash)

open NodePass (Affects)

/-- A half of a sync only adds a record to its pass, and keeps a problem for the report. -/
theorem run_half {α : Type} (name : String) (word : α → String) (pass : Job α) (world : World) :
    World.Still (world.run pass).2 (world.run (half name word pass)).2 ∧
      (world.run (half name word pass)).1 =
        match (world.run pass).1 with
        | .ok outcome => .ok (some outcome, [])
        | .error (.problem problem) => .ok (none, [problem])
        | .error (.crash crash) => .error (.crash crash) := by
  unfold half World.run
  rw [Program.run_andThen]
  rcases Program.run World.answer pass world with ⟨(problem | crash) | outcome, last⟩ <;>
    exact ⟨⟨rfl, rfl, rfl, rfl⟩, rfl⟩

private theorem quiet_services (settings : Settings) (mode : ServicePass.Mode) : (services settings mode).Quiet := by
  refine .bind (Job.uses_cluster rfl) fun listed => ?_
  split
  · exact ServicePass.quiet_run ..
  · trivial

private theorem affects_nodes (world : World) (settings : Settings) :
    Affects settings.eipTag world (world.run (nodes settings)).1 (world.run (nodes settings)).2 := by
  have still : World.Still world (World.answer (.cluster .listNodes settings.callLimit) world).2 :=
    World.still_answer rfl world
  change Affects settings.eipTag world (Program.run _ (Program.ask _ _) world).1 (Program.run _ (Program.ask _ _) world).2
  simp only [Program.run]
  generalize World.answer (.cluster .listNodes settings.callLimit) world = answered at still ⊢
  obtain ⟨(fault | crash) | nodes, middle⟩ := answered
  · exact .of_still (.none (by rintro ⟨⟩)) still
  · exact .of_still (.none (by rintro ⟨⟩)) still
  · exact .of_still (NodePass.affects_run middle settings.nodeSetup nodes) still

/-- The effect of a sync is that of its node pass, if it comes to it. -/
theorem affects_run (world : World) (settings : Settings) (mode : ServicePass.Mode) :
    ∃ outcome, Shows (world.run (run settings mode)).1 outcome ∧
      Affects settings.eipTag world outcome (world.run (run settings mode)).2 := by
  have before := ((quiet_services settings mode).still world).trans
    (run_half "Service" ServicePass.Outcome.word (services settings mode) world).1
  have served := (run_half "Service" ServicePass.Outcome.word (services settings mode) world).2
  change ∃ outcome, Shows (Program.run _ (Program.bind _ _) world).1 outcome ∧
    Affects settings.eipTag world outcome (Program.run _ (Program.bind _ _) world).2
  rw [Program.run_bind]
  unfold World.run at before served
  generalize Program.run World.answer (half "Service" ServicePass.Outcome.word (services settings mode)) world = first
    at before served ⊢
  obtain ⟨failure | ⟨service, problems⟩, middle⟩ := first
  · have crashed : ∃ crash, failure = .crash crash := by
      generalize (Program.run World.answer (services settings mode) world).1 = result at served
      rcases result with (problem | crash) | outcome <;> cases served
      exact ⟨crash, rfl⟩
    obtain ⟨crash, rfl⟩ := crashed
    exact ⟨.error (.crash crash), rfl, .of_still (.none nofun) before⟩
  · have passed := affects_nodes middle settings
    obtain ⟨recorded, shown⟩ := run_half "Node" NodePass.Outcome.word (nodes settings) middle
    dsimp only
    change ∃ outcome, Shows (Program.run _ (Program.bind _ _) middle).1 outcome ∧
      Affects settings.eipTag world outcome (Program.run _ (Program.bind _ _) middle).2
    rw [Program.run_bind]
    have affects := (passed.then_still recorded).of_still before
    refine ⟨(middle.run (nodes settings)).1, ?_⟩
    unfold World.run at affects shown ⊢
    generalize (Program.run World.answer (nodes settings) middle).1 = outcome at affects shown ⊢
    generalize Program.run World.answer (half "Node" NodePass.Outcome.word (nodes settings)) middle = last
      at affects shown ⊢
    obtain ⟨ended, state⟩ := last
    rcases outcome with (problem | crash) | outcome <;> obtain rfl := shown
    · exact ⟨⟨_, rfl, rfl, by simp⟩, affects⟩
    · exact ⟨rfl, affects⟩
    · exact ⟨⟨_, rfl, rfl⟩, affects⟩

end Sync

def Action.passesNodes : Action → Bool
  | .nodePass _ _ | .sync _ _ => true
  | _ => false

namespace World

open Metal.Ledger (Tidy)

private theorem afterAction_still (world : World) {action : Action} (other : action.passesNodes = false) :
    (world.afterAction action).ledger = world.ledger ∧ (world.afterAction action).lastMove = world.lastMove := by
  cases action with
  | nodePass | sync => cases other
  | servicePass setup services mode =>
    have still := (ServicePass.quiet_run setup services mode).still world
    exact ⟨still.ledger, still.lastMove⟩
  | observePort port =>
    have still := (Job.quiet_observePort port).still world
    exact ⟨still.ledger, still.lastMove⟩
  | enterGuard | leaveGuard | outside => exact ⟨rfl, rfl⟩

private theorem tidy_afterAction {world : World} (tidy : Tidy world.ledger) (action : Action) :
    Tidy (world.afterAction action).ledger := by
  cases action with
  | nodePass setup nodes => exact (NodePass.affects_run world setup nodes).tidy tidy
  | sync settings mode =>
    obtain ⟨outcome, -, affects⟩ := Sync.affects_run world settings mode
    exact affects.tidy tidy
  | _ =>
    rw [(afterAction_still world rfl).1]
    exact tidy

private theorem tidy_afterActions {world : World} (tidy : Tidy world.ledger) (actions : List Action) :
    Tidy (world.afterActions actions).ledger := by
  induction actions generalizing world with
  | nil => exact tidy
  | cons action actions ih => exact ih (tidy_afterAction tidy action)

/-- No reservation is assigned twice, every node pass accounts for its reservation, be it a pass of its own or
part of a sync, and nothing else touches the reservations or the last move. -/
structure Accountable (world : World) : Prop where
  single : ∀ reservation ∈ world.ledger, reservation.assignments.length ≤ 1
  nodePass : ∀ setup nodes, NodePass.Accounts setup.tag world (world.run (NodePass.run setup nodes)).1
    (world.run (NodePass.run setup nodes)).2
  sync : ∀ settings mode, ∃ outcome, Sync.Shows (world.run (Sync.run settings mode)).1 outcome ∧
    NodePass.Accounts settings.eipTag world outcome (world.run (Sync.run settings mode)).2
  others : ∀ action, action.passesNodes = false →
    (world.afterAction action).ledger = world.ledger ∧ (world.afterAction action).lastMove = world.lastMove

/-- From tidy reservations every sequence of actions leads to an accountable state. -/
theorem accountable_afterActions (world : World) (tidy : Tidy world.ledger) (actions : List Action) :
    Accountable (world.afterActions actions) := by
  have kept := tidy_afterActions tidy actions
  constructor
  · exact kept.single
  · exact fun setup nodes => (NodePass.affects_run _ setup nodes).accounts kept
  · intro settings mode
    obtain ⟨outcome, shown, affects⟩ := Sync.affects_run (world.afterActions actions) settings mode
    exact ⟨outcome, shown, affects.accounts kept⟩
  · exact fun action => afterAction_still _

/-- A held address on a control plane whose next assignment fails. -/
def aboutToLose : World where
  cluster := { nodes := [some ⟨some { name := some "first", labels := some [(Cluster.controlPlaneLabels[0], .text "")] },
    some "packet://device", [some ⟨"InternalIP", "10.0.0.1"⟩]⟩] }
  ledger := [⟨"reservation", "1.2.3.4", ["eip"], [⟨"old", none, none⟩]⟩]
  metalFaults := Schedule.clear.set .assign [some (.problem (.metal "refused" none (some 500)))]
  script := .byTarget [("GET https://10.0.0.1:6443/healthz", [.answered 200 []])]
  ports := ⟨.number 6443, .number 6443, true⟩

theorem accountable_aboutToLose :
    Tidy aboutToLose.ledger ∧
      (aboutToLose.afterAction (.nodePass ⟨"project", "eip", .unhealthy, none, none⟩ aboutToLose.cluster.nodes)).ledger =
        [⟨"reservation", "1.2.3.4", ["eip"], []⟩] ∧
      Accountable (aboutToLose.afterActions
        [.nodePass ⟨"project", "eip", .unhealthy, none, none⟩ aboutToLose.cluster.nodes]) :=
  ⟨⟨by decide, by decide⟩, by decide +kernel, accountable_afterActions aboutToLose ⟨by decide, by decide⟩ _⟩

end World

end ElasticEndpoint
