import ElasticEndpoint.Proofs.ProbedPorts
import ElasticEndpoint.Proofs.ServiceHealing

/-!
The published port. Once the server's service was mirrored under a known desired port, the mirrored service has that
port at every later moment, whatever fails, as long as nobody else edits it. So the elastic address is probed on the
port that it is published on.
-/

namespace ElasticEndpoint

open Net (Port)
open World (answer)
open ServicePass (isMirror mirrorName mirrorSpace newService updated published renewService Publishing)

namespace Cluster

/-- The port that comes first in a service. -/
def Service.firstPort? (service : Service) : Option Port := do
  let spec ← service.spec
  let ports ← spec.ports
  let first ← ports.head?
  return (← first).port

namespace Store

/-- The mirrored service that is found in a store. -/
def mirror? (store : Store) : Option Service := (findFirst (isMirror ·.metadata) store.services).toOption.join

def publishedPort? (store : Store) : Option Port := store.mirror?.bind Service.firstPort?

variable {store : Store} {service : Service}

private theorem mirror?_eq_some :
    store.mirror? = some service ↔ findFirst (isMirror ·.metadata) store.services = .ok (some service) := by
  simp only [mirror?]
  generalize findFirst (isMirror ·.metadata) store.services = looked
  rcases looked with failure | _ | found <;> simp [Except.toOption]

private theorem publishedPort?_eq_some {port : Port} : store.publishedPort? = some port ↔
    ∃ service, findFirst (isMirror ·.metadata) store.services = .ok (some service) ∧ service.firstPort? = some port := by
  simp only [publishedPort?, Option.bind_eq_some_iff, mirror?_eq_some]

/-- A call that publishes a port on the mirrored service keeps it there. -/
theorem publishedPort?_perform {told : Act → Prop} {eip : String} {port : Port} {first : ServicePort}
    {others : List (Option ServicePort)} {call : Call}
    (publishing : Publishing told eip (some { first with port := port } :: others) call)
    (named : ∀ timeout existing, told (.cluster (.readService mirrorName mirrorSpace) timeout (.ok existing)) →
      isMirror existing.metadata = true)
    (kept : store.publishedPort? = some port) : (perform call store).2.publishedPort? = some port := by
  obtain ⟨service, found, shown⟩ := publishedPort?_eq_some.mp kept
  cases publishing with
  | readEndpoints | readService => exact kept
  | createEndpoints body =>
    simp only [perform, withEndpoints]
    split <;> exact kept
  | replaceEndpoints body =>
    simp only [perform, withEndpoints]
    split <;> exact kept
  | createService =>
    have refused :
        add (isMirror ·.metadata) (newService eip (some { first with port := port } :: others)) store.services =
          .error conflict := by
      unfold add
      rw [found]
    change (withServices store (add (isMirror ·.metadata) _ store.services)).2.publishedPort? = some port
    rw [refused]
    exact kept
  | replaceService timeout existing spec seen =>
    obtain ⟨after, changed, there⟩ := change_of_found found fun old =>
      { updated eip (some { first with port := port } :: others) existing spec with status := old.status }
    change (withServices store (change (isMirror ·.metadata) _ store.services)).2.publishedPort? = some port
    rw [changed]
    exact publishedPort?_eq_some.mpr ⟨_, there (named timeout existing seen), rfl⟩
  | replaceStatus body =>
    obtain ⟨after, changed, there⟩ := change_of_found found fun old =>
      { old with status := (published eip body).status }
    change (withServices store (change (isMirror ·.metadata) _ store.services)).2.publishedPort? = some port
    rw [changed]
    have mirror := findFirst_holds found
    exact publishedPort?_eq_some.mpr ⟨_, there mirror, shown⟩

end Store

end Cluster

/-- What a world that publishes a desired port tells. -/
def Act.Tells (port : Port) : Act → Prop
  | ⟨.observePort _, before⟩ => before.desired = port
  | ⟨.cluster (.readService name space) _, .ok existing⟩ => Cluster.isNamed (some name) space existing.metadata = true
  | _ => True

/-- A request that keeps a port published. -/
def Request.Keeps (port : Port) : Request → Prop
  | .cluster call _ => (∀ store, (Cluster.Store.perform call store).2 = store) ∨
    ∃ eip, ∃ first : Cluster.ServicePort, ∃ others,
      Publishing (Act.Tells port) eip (some { first with port := port } :: others) call
  | _ => True

namespace World

/-- A port is desired, and the mirrored service has it. -/
structure Publishes (port : Port) (world : World) : Prop where
  desired : world.ports.desired = port
  published : world.cluster.publishedPort? = some port

variable {port : Port} {world : World}

theorem Publishes.tells (publishes : world.Publishes port) (request : Request) :
    Act.Tells port ⟨request, (answer request world).1⟩ := by
  cases request with
  | observePort target => exact publishes.desired
  | cluster call timeout =>
    cases call with
    | readService name space =>
      rcases answer_call (.readService name space) timeout world with ⟨failure, -, told, -⟩ | ⟨-, told, -⟩
      · rw [told]
        trivial
      · rw [told]
        change Act.Tells port (.cluster (.readService name space) timeout (Cluster.require _ _))
        cases looked : Cluster.require (fun service => Cluster.isNamed (some name) space service.metadata)
            world.cluster.services with
        | error failure => trivial
        | ok service =>
          have named := Cluster.findFirst_holds (Cluster.require_eq_ok.mp looked)
          exact named
    | _ => trivial
  | _ => trivial

theorem Publishes.kept (publishes : world.Publishes port) (known : port.isUnknown = false) {request : Request}
    (keeps : request.Keeps port) : (World.answer request world).2.Publishes port := by
  constructor
  · cases request with
    | observePort target =>
      refine (Ports.observe_of_known ?_ target).trans publishes.desired
      rw [publishes.desired]
      exact known
    | _ => exact (congrArg Ports.desired (answer_ports (by simp) world)).trans publishes.desired
  · cases request with
    | cluster call timeout =>
      rcases answer_call call timeout world with ⟨failure, -, -, same⟩ | ⟨-, -, performed⟩
      · rw [same]
        exact publishes.published
      · rw [performed]
        rcases keeps with looks | ⟨eip, first, others, publishing⟩
        · rw [looks]
          exact publishes.published
        · exact Cluster.Store.publishedPort?_perform publishing (fun _ _ named => named) publishes.published
    | _ =>
      rw [answer_cluster (by simp)]
      exact publishes.published

end World

private theorem Request.keeps_of_work {port : Port} {request : Request}
    (work : request.isNodeWork = true ∨ request.isGuard = true) : request.Keeps port := by
  cases request with
  | cluster call timeout =>
    rcases work with work | guard
    · cases call with
      | readNode name => exact .inl fun _ => rfl
      | _ => cases work
    · cases guard
  | _ => trivial

namespace Job

/-- A job that keeps a port published, as long as it is told of nothing else. -/
abbrev Keeps {α : Type} (port : Port) (job : Job α) : Prop :=
  Program.Honours (Act.Tells port) (Request.Keeps port) (fun _ => True) job

variable {α : Type} {port : Port} {job : Job α} {world state : World} {past : List Act}

theorem Keeps.along (keeps : job.Keeps port) (known : port.isUnknown = false) (publishes : world.Publishes port)
    (within : past <+: job.history answer world) (answered : Program.Answers answer world past state) :
    state.Publishes port := by
  obtain ⟨rest, whole⟩ := within
  exact Program.Honours.keeps keeps (fun request _ publishes => publishes.tells request)
    (fun _ _ asked publishes => publishes.kept known asked) publishes whole.symm answered

theorem Keeps.run (keeps : job.Keeps port) (known : port.isUnknown = false) (publishes : world.Publishes port) :
    (world.run job).2.Publishes port :=
  keeps.along known publishes (List.prefix_refl _) (Program.answers_history answer job world)

end Job

namespace ServicePass

open Cluster (Service ServicePort findFirst)

private theorem firstPort?_of_renewed {eip : String} {first : ServicePort} {others : List (Option ServicePort)} {port : Port}
    {found : Option Service} {new : Service}
    (made : renewService eip (some { first with port := port } :: others) found = some new) :
    new.firstPort? = some port := by
  cases found with
  | none =>
    cases made
    rfl
  | some existing =>
    obtain ⟨spec, -, rfl⟩ := Option.map_eq_some_iff.mp made
    rfl

theorem Plan.Completes.shows {plan : Plan} {before world : World}
    (completes : plan.Completes before.publication world.publication) : world.Publishes world.ports.desired := by
  obtain ⟨ports, -, written, renewed, shown⟩ := completes
  obtain ⟨_, service, -, made, -, there, -⟩ := Cluster.put_cases (names_renewService plan.eip _) renewed
  obtain ⟨_, _, known, status, -, kept, -⟩ := Cluster.put_cases (names_published plan.eip) shown
  rw [there] at known
  cases known
  cases status
  have first := firstPort?_of_renewed made
  refine ⟨rfl, Cluster.Store.publishedPort?_eq_some.mpr ⟨_, kept, ?_⟩⟩
  rw [show world.ports = before.ports.observe plan.target from ports]
  exact first

private theorem publishes_of_mirrored {world : World} {setup : Setup} {services : List (Option Service)} {mode : Mode}
    (mirrored : (world.run (run setup services mode)).1 = .ok .mirrored) :
    (world.run (run setup services mode)).2.Publishes (world.run (run setup services mode)).2.ports.desired := by
  obtain ⟨plan, -, completes⟩ := completes_of_mirrored mirrored
  exact completes.shows

end ServicePass

private theorem ServicePass.keeps_run {port : Port} (known : port.isUnknown = false) (setup : Setup)
    (services : List (Option Cluster.Service)) (mode : Mode) : (run setup services mode).Keeps port := by
  apply honours_run
  · exact fun _ => trivial
  · trivial
  · exact fun _ => trivial
  · intro before target told eip first others call publishing
    have same : (before.observe target).desired = port := by
      refine (Ports.observe_of_known ?_ target).trans told
      rw [show before.desired = port from told]
      exact known
    rw [same] at publishing
    exact .inr ⟨eip, first, others, publishing⟩

private theorem NodePass.keeps_run (port : Port) (setup : Setup) (nodes : List (Option Cluster.Node)) :
    (run setup nodes).Keeps port :=
  ((uses_run setup nodes).imp fun _ => Request.keeps_of_work).honours

namespace Sync

variable {port : Port}

private theorem keeps_half {α : Type} {pass : Job α} (keeps : pass.Keeps port) (name : String) (word : α → String) :
    (half name word pass).Keeps port := by
  apply keeps.andThen
  intro result _
  rcases result with (problem | crash) | outcome
  · exact ⟨trivial, fun _ _ => trivial⟩
  · trivial
  · exact ⟨trivial, fun _ _ => trivial⟩

private theorem keeps_services (known : port.isUnknown = false) (settings : Settings) (mode : ServicePass.Mode) :
    (services settings mode).Keeps port := by
  apply (Job.uses_cluster (Or.inl fun _ => rfl)).honours.bind
  · intro listed _
    split
    · exact ServicePass.keeps_run known ..
    · trivial
  · exact fun _ _ => trivial

private theorem keeps_nodes (settings : Settings) : (nodes settings).Keeps port := by
  apply (Job.uses_cluster (Or.inl fun _ => rfl)).honours.bind
  · intro listed _
    split
    · exact NodePass.keeps_run port ..
    · trivial
  · exact fun _ _ => trivial

/-- What a sync does after its service half keeps any port published. -/
theorem run_services (settings : Settings) (mode : ServicePass.Mode) :
    ∃ rest : Except Failure ServicePass.Outcome → Job SyncReport,
      run settings mode = (services settings mode).andThen rest ∧ ∀ port result, (rest result).Keeps port := by
  refine ⟨_, Program.andThen_andThen .., ?_⟩
  intro port result
  rcases result with (problem | crash) | outcome
  · refine ⟨trivial, fun _ _ => ?_⟩
    exact (keeps_half (keeps_nodes settings) ..).bind (fun _ _ => trivial) fun _ _ => trivial
  · trivial
  · refine ⟨trivial, fun _ _ => ?_⟩
    exact (keeps_half (keeps_nodes settings) ..).bind (fun _ _ => trivial) fun _ _ => trivial

private theorem keeps_run (known : port.isUnknown = false) (settings : Settings) (mode : ServicePass.Mode) :
    (run settings mode).Keeps port := by
  obtain ⟨rest, same, keeps⟩ := run_services settings mode
  rw [same]
  exact (keeps_services known settings mode).andThen fun result _ => keeps port result

end Sync

/-- The service pass that an action makes, on its own or in a sync. -/
def Action.service? : Action → Option (Job ServicePass.Outcome)
  | .servicePass setup services mode => some (ServicePass.run setup services mode)
  | .sync settings mode => some (Sync.services settings mode)
  | _ => none

namespace World

variable {port : Port} {world start state after : World} {instant later : Instant}

private theorem course_of_service {action : Action} {job : Job ServicePass.Outcome} (makes : action.service? = some job)
    (world : World) : ∃ (β : Type) (rest : Job β), (∀ port, rest.Keeps port) ∧
      world.course action = job.history answer world ++ rest.history answer (world.run job).2 ∧
        world.afterAction action = ((world.run job).2.run rest).2 := by
  cases action with
  | servicePass setup services mode =>
    cases makes
    exact ⟨Unit, pure (), fun _ => trivial, (List.append_nil _).symm, rfl⟩
  | sync settings mode =>
    cases makes
    obtain ⟨rest, same, keeps⟩ := Sync.run_services settings mode
    refine ⟨SyncReport, rest (world.run (Sync.services settings mode)).1, fun port => keeps port _, ?_, ?_⟩
    · change (Sync.run settings mode).history answer world = _
      rw [same, Program.history_andThen]
      rfl
    · change (world.run (Sync.run settings mode)).2 = _
      rw [same, run_andThen]
  | _ => cases makes

theorem Publishes.course (publishes : world.Publishes port) (known : port.isUnknown = false) {action : Action}
    {past : List Act} (within : past <+: world.course action) (answered : Program.Answers answer world past state) :
    state.Publishes port := by
  cases action with
  | nodePass setup nodes => exact (NodePass.keeps_run port setup nodes).along known publishes within answered
  | servicePass setup services mode =>
    exact (ServicePass.keeps_run known setup services mode).along known publishes within answered
  | sync settings mode => exact (Sync.keeps_run known settings mode).along known publishes within answered
  | observePort target =>
    have observing : (Job.observePort target).Keeps port :=
      (Job.honours_observePort (fun _ => trivial) trivial).uses.honours
    exact observing.along known publishes within answered
  | enterGuard | leaveGuard | outside =>
    obtain rfl := List.prefix_nil.mp within
    obtain rfl := Program.answers_nil.mp answered
    exact publishes

/-- Whoever else acts leaves the mirrored service that is found as it is. -/
def Spares (world : World) (action : Action) : Prop :=
  ∀ cluster clusterFaults metalFaults script, action = .outside cluster clusterFaults metalFaults script →
    cluster.mirror? = world.cluster.mirror?

theorem Publishes.afterAction (publishes : world.Publishes port) (known : port.isUnknown = false) {action : Action}
    (spares : world.Spares action) : (world.afterAction action).Publishes port := by
  cases action with
  | nodePass setup nodes => exact (NodePass.keeps_run port setup nodes).run known publishes
  | servicePass setup services mode => exact (ServicePass.keeps_run known setup services mode).run known publishes
  | sync settings mode => exact (Sync.keeps_run known settings mode).run known publishes
  | observePort target =>
    exact Job.Keeps.run (Job.honours_observePort (fun _ => trivial) trivial).uses.honours known publishes
  | enterGuard | leaveGuard => exact ⟨publishes.desired, publishes.published⟩
  | outside cluster clusterFaults metalFaults script =>
    refine ⟨publishes.desired, ?_⟩
    have same := spares cluster clusterFaults metalFaults script rfl
    change cluster.mirror?.bind _ = _
    rw [same]
    exact publishes.published

/-- From one instant to a later one nobody else edits the mirrored service. -/
def Undisturbed (start : World) (instant later : Instant) : Prop :=
  ∀ front action rest, later.actions = front ++ action :: rest → instant.actions.length < front.length →
    (start.afterActions front).Spares action

/-- At an instant a service pass has just mirrored the server's service, on its own or in a sync. -/
def Mirrors (start : World) (instant : Instant) (state : World) : Prop :=
  ∃ job, instant.action.service? = some job ∧
    (start.afterActions instant.actions).run job = (.ok .mirrored, state) ∧
      instant.past = job.history answer (start.afterActions instant.actions)

theorem Publishes.afterActions {actions : List Action} (publishes : world.Publishes port) (known : port.isUnknown = false)
    (spares : ∀ front action rest, actions = front ++ action :: rest → (world.afterActions front).Spares action) :
    (world.afterActions actions).Publishes port := by
  induction actions generalizing world with
  | nil => exact publishes
  | cons action actions ih =>
    apply ih (publishes.afterAction known (spares [] action actions rfl))
    intro front other rest split
    exact spares (action :: front) other rest (congrArg (action :: ·) split)

theorem Mirrors.shows (mirrors : start.Mirrors instant state) : state.Publishes state.ports.desired := by
  obtain ⟨job, makes, ran, -⟩ := mirrors
  generalize start.afterActions instant.actions = before at ran
  cases action : instant.action with
  | servicePass setup services mode =>
    rw [action] at makes
    cases makes
    obtain rfl := congrArg Prod.snd ran
    exact ServicePass.publishes_of_mirrored (congrArg Prod.fst ran)
  | sync settings mode =>
    rw [action] at makes
    cases makes
    change Program.run answer (Program.ask (.cluster .listServices settings.callLimit) _) before = _ at ran
    unfold Program.run at ran
    generalize answer (.cluster .listServices settings.callLimit) before = told at ran
    obtain ⟨(fault | crash) | services, listed⟩ := told
    · cases ran
    · cases ran
    · have passed : listed.run (ServicePass.run settings.serviceSetup services mode) = (.ok .mirrored, state) := ran
      obtain rfl := congrArg Prod.snd passed
      exact ServicePass.publishes_of_mirrored (congrArg Prod.fst passed)
  | _ =>
    rw [action] at makes
    cases makes

/-- After a service pass mirrored the server's service under a known port, every later moment has it published. -/
theorem Mirrors.published (mirrors : start.Mirrors instant state) (known : state.ports.desired.isUnknown = false)
    (precedes : instant.Precedes later) (reaches : start.Reaches later after)
    (undisturbed : start.Undisturbed instant later) :
    after.Publishes state.ports.desired := by
  have first := mirrors.shows
  obtain ⟨job, makes, ran, whole⟩ := mirrors
  cases precedes with
  | within actions action past more =>
    -- The later moment is in what the same action does after its pass.
    change past = job.history answer (start.afterActions actions) at whole
    subst whole
    obtain ⟨β, rest, keeps, course, -⟩ := course_of_service makes (start.afterActions actions)
    obtain ⟨middle, before, answered⟩ := Program.answers_append.mp reaches.answered
    obtain rfl := before.unique (Program.answers_history answer job _)
    have within := reaches.within
    rw [course, List.prefix_append_right_inj] at within
    rw [show Program.run answer job (start.afterActions actions) = _ from ran] at answered
    rw [show (start.afterActions actions).run job = _ from ran] at within
    exact (keeps _).along known first within answered
  | apart actions action past between next part =>
    -- The action comes to its end, the actions between run through, and the later moment is inside the next one.
    obtain ⟨β, rest, keeps, -, ended⟩ := course_of_service makes (start.afterActions actions)
    rw [show (start.afterActions actions).run job = _ from ran] at ended
    have started : ((start.afterActions actions).afterAction action).Publishes state.ports.desired := by
      rw [ended]
      exact (keeps _).run known first
    have parts (front : List Action) : start.afterActions (actions ++ action :: front) =
        ((start.afterActions actions).afterAction action).afterActions front := by
      simp [afterActions]
    have reached : (start.afterActions (actions ++ action :: between)).Publishes state.ports.desired := by
      rw [parts]
      apply started.afterActions known
      intro front other others split
      rw [← parts]
      apply undisturbed (actions ++ action :: front) other others
      · simp [split]
      · simp
    exact reached.course known reaches.within reaches.answered

/-- How the ports of a run agree at all its moments: with what is observed, with what is probed, and with what is
published. -/
structure PortsAgree (start : World) (configured : Int) : Prop where
  observed : ∀ actions action,
    Act.observed ((start.afterActions actions).course action) = (start.afterActions actions).sees action
  tracks : ∀ instant state, start.Reaches instant state →
    Ports.Tracks configured (start.seenBy instant) state.ports
  settled : ∀ instant state later after, start.Reaches instant state → start.Reaches later after →
    instant.Precedes later → state.ports.desired.isUnknown = false → after.ports.desired = state.ports.desired
  probed : ∀ instant state request outcome, start.Reaches instant state →
    instant.past ++ [Act.http request outcome] <+: (start.afterActions instant.actions).course instant.action →
      ∃ setup, instant.action.nodeSetup? = some setup ∧ NodePass.Aimed setup state.ports instant.past request
  published : ∀ instant state later after, start.Mirrors instant state → state.ports.desired.isUnknown = false →
    start.Reaches later after → instant.Precedes later → start.Undisturbed instant later →
      after.cluster.publishedPort? = some after.ports.desired

/-- From a configured port, every run of passes, syncs and observations keeps its ports in agreement, whatever
fails. -/
theorem ports_agree (start : World) (configured : Int) (begins : start.ports = .configured (.number configured)) :
    start.PortsAgree configured := by
  constructor
  · exact fun actions action => observed_course _ action
  · exact fun instant state reaches => reaches.tracks begins
  · exact fun instant state later after reaches reachesLater precedes => reaches.settled begins precedes reachesLater
  · intro instant state request outcome reaches within
    obtain ⟨rest, whole⟩ := within
    rw [List.append_assoc] at whole
    exact probes_course _ _ instant.past request outcome rest state whole.symm reaches.answered
  · intro instant state later after mirrors known reaches precedes undisturbed
    have publishes := mirrors.published known precedes reaches undisturbed
    rw [publishes.desired]
    exact publishes.published

open ServicePass (plainServer plainPass interrupted)

/-- The first port that is observed is published, and stays so when the nodes come to serve another one. -/
theorem ports_agree_adopted :
    interrupted.calmed.ports = .configured (.number 0) ∧
      let after := interrupted.calmed.afterActions
        [.servicePass ⟨"project", "eip", none⟩ [some plainServer] .sync, .observePort (.number 7443)]
      after.ports.node = .number 7443 ∧ after.cluster.publishedPort? = some (.number 6443) := by
  have agree := ports_agree interrupted.calmed 0 rfl
  refine ⟨rfl, rfl, ?_⟩
  let pass : Action := .servicePass ⟨"project", "eip", none⟩ [some plainServer] .sync
  let mirrored : Instant := ⟨[], pass, plainPass.history answer interrupted.calmed⟩
  let later : Instant := ⟨[pass, .observePort (.number 7443)], .enterGuard, []⟩
  have mirrors : interrupted.calmed.Mirrors mirrored (interrupted.calmed.run plainPass).2 :=
    ⟨plainPass, rfl, Prod.ext (by rfl) rfl, rfl⟩
  have undisturbed : interrupted.calmed.Undisturbed mirrored later := by
    intro front action rest split long
    match front, split with
    | [_], split =>
      cases split
      exact fun _ _ _ _ => nofun
    | _ :: _ :: front, split => cases front <;> cases split
  have published := agree.published mirrored _ later _ mirrors (by rfl) ⟨List.nil_prefix, .nil _⟩ (.apart ..) undisturbed
  exact published.trans (by rfl)

end World

end ElasticEndpoint
