import ElasticEndpoint.Proofs.Interleaving
import ElasticEndpoint.Proofs.MirrorPursuit

/-!
Confluence of the mirror. Service passes have no guard, and those of several managers work on one cluster. However
their calls come in between each other, they leave there what one of them alone would leave.
-/

namespace ElasticEndpoint

/-- Managers that share a cluster. -/
structure Fleet where
  cluster : Cluster.Store
  managers : Nat → World

namespace Fleet

/-- The world as a manager sees it. -/
def view (fleet : Fleet) (manager : Nat) : World := { fleet.managers manager with cluster := fleet.cluster }

def leave (fleet : Fleet) (manager : Nat) (world : World) : Fleet where
  cluster := world.cluster
  managers other := if other = manager then world else fleet.managers other

@[reducible]
def Reply (sent : Nat × Request) : Type := sent.2.Reply

def answer (sent : Nat × Request) (fleet : Fleet) : Reply sent × Fleet :=
  let (reply, world) := World.answer sent.2 (fleet.view sent.1)
  (reply, fleet.leave sent.1 world)

def sends {α : Type} (manager : Nat) (job : Job α) : Program Reply Failure α :=
  job.interpret fun request => .request (manager, request)

@[simp]
theorem view_leave_self (fleet : Fleet) (manager : Nat) (world : World) :
    (fleet.leave manager world).view manager = world := by
  simp [view, leave]

private theorem view_leave_other (fleet : Fleet) {manager other : Nat} (apart : other ≠ manager) (world : World) :
    (fleet.leave manager world).view other = { fleet.view other with cluster := world.cluster } := by
  simp [view, leave, apart]

end Fleet

namespace ServicePass

open Cluster (Service findFirst those)
open Program (Interleaving)
open World (answer Calm)

structure Pass where
  manager : Nat
  setup : Setup
  services : List (Option Service)
  mode : Mode

def Pass.job (pass : Pass) : Job Outcome := run pass.setup pass.services pass.mode

def together (fleet : Fleet) (passes : List Pass) : Interleaving Fleet.Reply Failure Outcome Fleet where
  state := fleet
  members := passes.map fun pass => Fleet.sends pass.manager pass.job

/-- What a pass did in some turns. -/
def actsIn (turns : List (Nat × Exchange Fleet.Reply)) (index : Nat) : List Act :=
  (Interleaving.own turns index).map fun taken => ⟨taken.request.2, taken.reply⟩

variable {α : Type} {course : Course} {ledger : Metal.Ledger} {post : Except Failure α → Standing → Prop}
  {world : World} {phase : Phase} {standing : Standing}

/-- A manager that meets no fault, sees some reservations and publishes on the port of the course. -/
structure Ready (course : Course) (ledger : Metal.Ledger) (world : World) : Prop where
  calm : Calm world
  ledger : world.ledger = ledger
  port : (world.ports.observe course.plan.target).desired = course.desired

/-- A pass on its way, in surroundings where the mirror has come to a phase. -/
structure Underway (course : Course) (ledger : Metal.Ledger) (post : Except Failure α → Standing → Prop) (phase : Phase)
    (standing : Standing) (job : Job α) : Prop where
  known : standing.seen ≤ phase
  within : standing.reached ≤ standing.seen
  pursues : course.Pursues ledger post standing job

theorem Underway.answered {request : Request} {next : request.Reply → Job α} (ready : Ready course ledger world)
    (cluster : world.cluster = course.storeIn phase)
    (underway : Underway course ledger post phase standing (Program.ask request next)) :
    ∃ after last, phase.Turn after standing.reached last.reached ∧
      last.acts = standing.acts ++ [⟨request, (answer request world).1⟩] ∧
      Ready course ledger (answer request world).2 ∧ (answer request world).2.cluster = course.storeIn after ∧
      Underway course ledger post after last (next (answer request world).1) := by
  obtain ⟨known, within, pursues⟩ := underway
  have stays : phase.Turn phase standing.reached standing.reached := .stays (Phase.le_trans within known)
  have calm (request : Request) := World.calm_answer ready.calm request
  cases request with
  | log record =>
    exact ⟨phase, standing.heard _, stays, rfl, ⟨calm _, ready.ledger, ready.port⟩, cluster, known, within, pursues _⟩
  | observePort port =>
    obtain ⟨rfl, observes⟩ := pursues
    refine ⟨phase, standing.heard _, stays, rfl, ⟨calm _, ready.ledger, ?_⟩, cluster, known, within,
      observes _ ready.port⟩
    change ((world.ports.observe course.plan.target).observe course.plan.target).desired = _
    rw [Ports.observe_observe]
    exact ready.port
  | metal call =>
    cases call with
    | list project withAssignments =>
      cases withAssignments with
      | true =>
        have listed : answer (.metal (.list project true)) world =
            (.ok ledger, world.note (.metal (.list project true))) := by
          rw [← ready.ledger]
          simp only [answer, World.note, ready.calm.metal]
          rfl
        have kept := calm (.metal (.list project true))
        rw [listed] at kept ⊢
        exact ⟨phase, standing.heard _, stays, rfl, ⟨kept, ready.ledger, ready.port⟩, cluster, known, within, pursues⟩
      | false => exact pursues.elim
    | _ => exact pursues.elim
  | cluster call timeout =>
    obtain ⟨reply, after, reached, turn, performed, rest⟩ := pursues phase known
    rcases World.answer_call call timeout world with ⟨failure, due, -⟩ | ⟨-, told, left⟩
    · rw [ready.calm.cluster] at due
      cases due
    · rw [cluster, performed] at told left
      have same : (answer (.cluster call timeout) world).2.ports = world.ports :=
        World.answer_ports (by rintro _ ⟨⟩) world
      have kept : (answer (.cluster call timeout) world).2.ledger = world.ledger := World.answer_ledger rfl world
      rw [told]
      refine ⟨after, ⟨after, reached, _⟩, turn, rfl, ⟨calm _, kept.trans ready.ledger, ?_⟩, left, Phase.le_refl _,
        turn.within, rest⟩
      rw [same]
      exact ready.port
  | _ => exact pursues.elim

/-- The pass that brought the mirror as far as it is stays the one that did, as long as it has the turns. -/
theorem Phase.Turn.leads {phase after former reached : Phase} (turn : phase.Turn after former reached)
    (leader : former = phase) : reached = after := by
  by_cases moved : after = phase
  · exact Phase.le_antisymm turn.within (by rw [moved, ← leader]; exact turn.grows)
  · exact turn.earned moved

theorem Underway.mirrors {result : Except Failure Outcome}
    (underway : Underway course ledger Ends phase standing (.done result)) (leader : standing.reached = phase) :
    result = .ok .mirrored ∧ phase = .shown := by
  have ends : Ends result standing := underway.pursues
  cases ends with
  | mirrored done => exact ⟨rfl, leader.symm.trans done⟩
  | beaten behind met =>
    have ahead : phase < phase := Nat.lt_of_lt_of_le (leader ▸ behind) underway.known
    exact absurd ahead (Nat.lt_irrefl _)

theorem Underway.alone {job : Job Outcome} (underway : Underway course ledger Ends phase standing job)
    (ready : Ready course ledger world) (cluster : world.cluster = course.storeIn phase)
    (leader : standing.reached = phase) :
    (world.run job).1 = .ok .mirrored ∧ (world.run job).2.cluster = course.storeIn .shown := by
  induction job generalizing world phase standing with
  | done result =>
    obtain ⟨mirrored, shown⟩ := underway.mirrors leader
    exact ⟨mirrored, shown ▸ cluster⟩
  | ask request next ih =>
    obtain ⟨after, last, turn, -, ready, cluster, underway⟩ := underway.answered ready cluster
    exact ih _ underway ready cluster (turn.leads leader)

theorem Ready.elsewhere (ready : Ready course ledger world) (cluster : Cluster.Store) :
    Ready course ledger { world with cluster := cluster } :=
  ⟨⟨ready.calm.cluster, ready.calm.metal⟩, ready.ledger, ready.port⟩

/-- The invariant of passes that work on one mirror: each is on its way, and the mirror has come no further than one
of them brought it. -/
structure Joint (course : Course) (ledgers : Nat → Metal.Ledger) (passes : List Pass) (phase : Phase)
    (standing : Nat → Standing) (joint : Interleaving Fleet.Reply Failure Outcome Fleet) : Prop where
  cluster : joint.state.cluster = course.storeIn phase
  ready : ∀ pass ∈ passes, Ready course (ledgers pass.manager) (joint.state.view pass.manager)
  size : joint.members.length = passes.length
  underway : ∀ index pass, passes[index]? = some pass → ∃ job,
    joint.members[index]? = some (Fleet.sends pass.manager job) ∧
      Underway course (ledgers pass.manager) Ends phase (standing index) job
  acts : ∀ index, (standing index).acts = actsIn joint.turns index
  led : phase = .untouched ∨ ∃ index < passes.length, (standing index).reached = phase

theorem Joint.turn {ledgers : Nat → Metal.Ledger} {passes : List Pass} {phase : Phase} {standing : Nat → Standing}
    {joint : Interleaving Fleet.Reply Failure Outcome Fleet} (holds : Joint course ledgers passes phase standing joint)
    (index : Nat) : ∃ after others, Joint course ledgers passes after others (joint.turn Fleet.answer index) := by
  rcases Interleaving.turn_cases Fleet.answer joint index with same | ⟨sent, next, there, turned⟩
  · rw [same]
    exact ⟨phase, standing, holds⟩
  have inside : index < joint.members.length := (List.getElem?_eq_some_iff.mp there).1
  obtain ⟨pass, listed⟩ : ∃ pass, passes[index]? = some pass := ⟨_, List.getElem?_eq_getElem (holds.size ▸ inside)⟩
  obtain ⟨job, member, underway⟩ := holds.underway index pass listed
  rw [there] at member
  cases job with
  | done result => cases member
  | ask request rest =>
    cases member
    have ready := holds.ready pass (List.mem_of_getElem? listed)
    obtain ⟨after, last, turn, told, readyToo, cluster, onward⟩ := underway.answered ready holds.cluster
    rw [turned]
    refine ⟨after, fun other => if other = index then last else standing other, ?_⟩
    constructor
    · exact cluster
    · intro other among
      change Ready course _ ((joint.state.leave pass.manager _).view other.manager)
      by_cases same : other.manager = pass.manager
      · rw [same, Fleet.view_leave_self]
        exact readyToo
      · rw [Fleet.view_leave_other _ same]
        exact (holds.ready other among).elsewhere _
    · exact (List.length_set ..).trans holds.size
    -- Only the pass whose turn it was has moved on; all others stand where they stood.
    · intro other its member
      by_cases same : other = index
      · subst same
        rw [listed] at member
        cases member
        refine ⟨_, List.getElem?_set_self inside, ?_⟩
        rw [if_pos rfl]
        exact onward
      · obtain ⟨job, unchanged, itsWay⟩ := holds.underway other its member
        refine ⟨job, (List.getElem?_set_ne (Ne.symm same)).trans unchanged, ?_⟩
        rw [if_neg same]
        exact ⟨Phase.le_trans itsWay.known turn.kept, itsWay.within, itsWay.pursues⟩
    · intro other
      unfold actsIn
      by_cases same : other = index
      · subst same
        rw [if_pos rfl, Interleaving.own_append_self, List.map_append, told, holds.acts]
        rfl
      · rw [if_neg same, Interleaving.own_append_other _ (Ne.symm same)]
        exact holds.acts other
    · by_cases moved : after = phase
      · rcases holds.led with rfl | ⟨leader, within, reached⟩
        · exact .inl moved
        · refine .inr ⟨leader, within, ?_⟩
          by_cases same : leader = index
          · rw [if_pos same]
            exact turn.leads (same ▸ reached)
          · rw [if_neg same, reached, moved]
      · refine .inr ⟨index, holds.size ▸ inside, ?_⟩
        rw [if_pos rfl]
        exact turn.earned moved

/-- What passes agree on that mirror the same service at the same address and port, and what their cluster must have
for that. A look-up is to come to no blank place. -/
structure Agree (fleet : Fleet) (passes : List Pass) (plan : Plan) (desired : Net.Port) : Prop where
  fits : ∀ pass ∈ passes, Fits pass.setup pass.services pass.mode (fleet.managers pass.manager).ledger plan
  port : ∀ pass ∈ passes, ((fleet.managers pass.manager).ports.observe plan.target).desired = desired
  calm : ∀ pass ∈ passes, Calm (fleet.managers pass.manager)
  distinct : fleet.cluster.Distinct
  server : ∃ served, findFirst (isServer ·.metadata) fleet.cluster.endpoints = .ok (some served)
  endpoints : ∃ former, findFirst (isMirror ·.metadata) fleet.cluster.endpoints = .ok former
  services : ∃ old, findFirst (isMirror ·.metadata) fleet.cluster.services = .ok old ∧
    ∀ existing, old = some existing → existing.spec.isSome

def AllDone (joint : Interleaving Fleet.Reply Failure Outcome Fleet) : Prop :=
  ∀ member ∈ joint.members, ∃ result, member = .done result

/-- However the requests of passes are interleaved, they come to one end. -/
structure Confluent (fleet : Fleet) (passes : List Pass) : Prop where
  single : ∀ schedule, let cluster := ((together fleet passes).play Fleet.answer schedule).state.cluster
    (those (isMirror ·.metadata) cluster.endpoints).length ≤ 1 ∧ (those (isMirror ·.metadata) cluster.services).length ≤ 1
  ends : ∀ index < passes.length, ∀ turns : Nat → Nat, (∀ count, ∃ later, count ≤ later ∧ turns later = index) →
    ∃ count result,
      ((together fleet passes).play Fleet.answer ((List.range count).map turns)).members[index]? = some (.done result)
  results : ∀ schedule, let joint := (together fleet passes).play Fleet.answer schedule
    ∀ index result, joint.members[index]? = some (.done result) →
      result = .ok .mirrored ∨ ∃ problem, result = .error (.problem problem) ∧ Beaten (actsIn joint.turns index) problem
  mirrored : passes ≠ [] → ∀ schedule, let joint := (together fleet passes).play Fleet.answer schedule
    AllDone joint → .done (.ok .mirrored) ∈ joint.members
  cluster : ∀ schedule, let joint := (together fleet passes).play Fleet.answer schedule
    AllDone joint → ∀ pass ∈ passes, joint.state.cluster = ((fleet.view pass.manager).run pass.job).2.cluster

section

variable {fleet : Fleet} {passes : List Pass} {plan : Plan} {desired : Net.Port}

private theorem Agree.sets_course (agree : Agree fleet passes plan desired) :
    ∃ course : Course, course.start = fleet.cluster ∧ course.plan = plan ∧ course.desired = desired := by
  obtain ⟨served, server⟩ := agree.server
  obtain ⟨former, endpoints⟩ := agree.endpoints
  obtain ⟨old, services, specified⟩ := agree.services
  obtain ⟨new, renews⟩ : ∃ new, renewService plan.eip (some { plan.first with port := desired } :: plan.others) old =
      some new := by
    cases old with
    | none => exact ⟨_, rfl⟩
    | some existing =>
      obtain ⟨spec, present⟩ := Option.isSome_iff_exists.mp (specified existing rfl)
      exact ⟨_, Option.map_eq_some_iff.mpr ⟨spec, present, rfl⟩⟩
  exact Course.exist desired server endpoints services renews

def Standing.fresh : Standing := ⟨.untouched, .untouched, []⟩

private theorem underway_job {pass : Pass} (fits : Fits pass.setup pass.services pass.mode ledger course.plan) :
    Underway course ledger Ends .untouched .fresh pass.job :=
  ⟨Phase.le_refl _, Phase.le_refl _, Course.pursues_run fits rfl⟩

private theorem joint_together (agree : Agree fleet passes course.plan course.desired) (start : course.start = fleet.cluster) :
    Joint course (fun manager => (fleet.managers manager).ledger) passes .untouched (fun _ => .fresh)
      (together fleet passes) := by
  constructor
  · exact start.symm
  · intro pass among
    exact Ready.elsewhere ⟨agree.calm pass among, rfl, agree.port pass among⟩ fleet.cluster
  · exact List.length_map _
  · intro index pass listed
    refine ⟨pass.job, ?_, underway_job (agree.fits pass (List.mem_of_getElem? listed))⟩
    exact (List.getElem?_map ..).trans (congrArg _ listed)
  · exact fun _ => rfl
  · exact .inl rfl

private theorem joint_play (agree : Agree fleet passes course.plan course.desired) (start : course.start = fleet.cluster)
    (schedule : List Nat) : ∃ phase standing, Joint course (fun manager => (fleet.managers manager).ledger) passes phase
      standing ((together fleet passes).play Fleet.answer schedule) :=
  Interleaving.play_keeps Fleet.answer
    (fun joint => ∃ phase standing, Joint course (fun manager => (fleet.managers manager).ledger) passes phase standing joint)
    (fun _ index ⟨_, _, holds⟩ => holds.turn index) ⟨_, _, joint_together agree start⟩ schedule

theorem Joint.completed {ledgers : Nat → Metal.Ledger} {standing : Nat → Standing}
    {joint : Interleaving Fleet.Reply Failure Outcome Fleet} (holds : Joint course ledgers passes phase standing joint)
    (several : passes ≠ []) (done : AllDone joint) : .done (.ok .mirrored) ∈ joint.members ∧ phase = .shown := by
  have ended (index : Nat) (inside : index < passes.length) : ∃ pass result,
      passes[index]? = some pass ∧ joint.members[index]? = some (.done result) ∧
        Underway course (ledgers pass.manager) Ends phase (standing index) (.done result) := by
    have listed : passes[index]? = some passes[index] := List.getElem?_eq_getElem inside
    obtain ⟨job, member, underway⟩ := holds.underway index _ listed
    obtain ⟨result, ended⟩ := done _ (List.mem_of_getElem? member)
    cases job with
    | done last => exact ⟨_, last, listed, member, underway⟩
    | ask request next => cases ended
  have mirrored (index : Nat) (inside : index < passes.length) (leads : (standing index).reached = phase) :
      .done (.ok .mirrored) ∈ joint.members ∧ phase = .shown := by
    obtain ⟨pass, result, -, member, underway⟩ := ended index inside
    obtain ⟨rfl, shown⟩ := underway.mirrors leads
    exact ⟨List.mem_of_getElem? member, shown⟩
  rcases holds.led with rfl | ⟨index, inside, leads⟩
  · -- Nothing is before the first phase, so any of the passes leads.
    have inside : 0 < passes.length := List.length_pos_iff.mpr several
    obtain ⟨_, _, -, -, underway⟩ := ended 0 inside
    have leads := Phase.le_antisymm (Phase.le_trans underway.within underway.known) (Nat.zero_le _)
    exact mirrored 0 inside leads
  · exact mirrored index inside leads

/-- Service passes need no guard on the mirror: whatever the order of their calls, each ends in having mirrored or in
having been beaten to a creation, and together they leave what one of them leaves alone. -/
theorem confluent (agree : Agree fleet passes plan desired) : Confluent fleet passes := by
  obtain ⟨course, start, rfl, rfl⟩ := agree.sets_course
  constructor
  · intro schedule
    obtain ⟨phase, standing, holds⟩ := joint_play agree start schedule
    dsimp only
    rw [holds.cluster]
    apply course.single phase
    · rw [start]
      exact Cluster.those_single agree.distinct.endpoints
    · rw [start]
      exact Cluster.those_single agree.distinct.services
  · intro index inside turns fair
    have listed : (passes.map fun pass => Fleet.sends pass.manager pass.job)[index]? = some _ :=
      List.getElem?_eq_getElem (by simpa using inside)
    exact Interleaving.ends_fairly Fleet.answer listed turns fair
  · intro schedule joint index result ended
    obtain ⟨phase, standing, holds⟩ := joint_play agree start schedule
    have inside : index < passes.length := holds.size ▸ (List.getElem?_eq_some_iff.mp ended).1
    obtain ⟨job, member, underway⟩ := holds.underway index _ (List.getElem?_eq_getElem inside)
    rw [ended] at member
    cases job with
    | ask request next => cases member
    | done last =>
      cases member
      have ends : Ends result (standing index) := underway.pursues
      cases ends with
      | mirrored done => exact .inl rfl
      | beaten behind met => exact .inr ⟨_, rfl, holds.acts index ▸ met⟩
  · intro several schedule joint done
    obtain ⟨phase, standing, holds⟩ := joint_play agree start schedule
    exact (holds.completed several done).1
  · intro schedule joint done pass among
    obtain ⟨phase, standing, holds⟩ := joint_play agree start schedule
    obtain ⟨-, shown⟩ := holds.completed (List.ne_nil_of_mem among) done
    have ready : Ready course (fleet.managers pass.manager).ledger (fleet.view pass.manager) :=
      (joint_together agree start).ready pass among
    have alone := (underway_job (agree.fits pass among)).alone ready start.symm rfl
    rw [alone.2, ← shown]
    exact holds.cluster

end

def newcomers : Fleet := ⟨interrupted.cluster, fun _ => interrupted.calmed⟩

def rivals : List Pass :=
  [0, 1].map fun manager => ⟨manager, ⟨"project", "eip", none⟩, [some plainServer], .sync⟩

/-- Where two managers take turns, both miss the mirror, and the second one is beaten to it. -/
theorem confluent_rivals :
    (∃ plan desired, Agree newcomers rivals plan desired) ∧ Confluent newcomers rivals ∧
      ((together newcomers rivals).play Fleet.answer ((List.range 29).map (· % 2))).members =
        [.done (.ok .mirrored),
          .done (.error (.problem (.cluster "Failed to create mirrored endpoints" "409 Conflict")))] := by
  have agree : Agree newcomers rivals ⟨"1.2.3.4", ⟨.number 443, .int 6443, []⟩, [], .number 6443⟩ (.number 6443) := by
    constructor
    · intro pass among
      obtain ⟨manager, -, rfl⟩ := List.mem_map.mp among
      exact ⟨rfl, ⟨_, rfl, by decide, rfl⟩, rfl, rfl⟩
    · exact fun _ _ => rfl
    · exact fun _ _ => World.calm_calmed _
    · exact ⟨by decide, by decide⟩
    · exact ⟨_, rfl⟩
    · exact ⟨_, rfl⟩
    · exact ⟨none, rfl, nofun⟩
  exact ⟨⟨_, _, agree⟩, confluent agree, by rfl⟩

end ServicePass

end ElasticEndpoint
