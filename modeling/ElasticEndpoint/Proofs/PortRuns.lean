import ElasticEndpoint.Proofs.Assignments

/-!
Ports over whole runs. At every moment of a run, within a pass or between two, the node port is the one observed
last, and the desired port is the configured one or the first that was observed and known. What a pass observes is
decided before it writes anything, so it does not matter whether it fails after that.
-/

namespace ElasticEndpoint

open Net (Port)
open World (answer)

/-- What the ports are once some were observed. -/
structure Ports.Tracks (configured : Int) (observed : List Port) (ports : Ports) : Prop where
  node : ports.node = observed.getLast?.getD (.number 0)
  preset : configured ≠ 0 → ports.desired = .number configured
  adopted : configured = 0 → ∀ port, observed.find? (!·.isUnknown) = some port → ports.desired = port
  unknown : configured = 0 → observed.find? (!·.isUnknown) = none → ports.desired.isUnknown = true

namespace Ports

variable {configured : Int} {observed : List Port} {ports : Ports}

private theorem tracks_configured (configured : Int) : Tracks configured [] (.configured (.number configured)) where
  node := rfl
  preset _ := rfl
  adopted _ _ found := by cases found
  unknown zero _ := by
    subst zero
    rfl

theorem observe_of_known (known : ports.desired.isUnknown = false) (port : Port) :
    (ports.observe port).desired = ports.desired := by
  simp [observe, known]

private theorem observe_of_unknown (unknown : ports.desired.isUnknown = true) (port : Port) :
    (ports.observe port).desired = port := by
  simp [observe, unknown]

theorem Tracks.observe (tracks : Tracks configured observed ports) (port : Port) :
    Tracks configured (observed ++ [port]) (ports.observe port) := by
  have first : (observed ++ [port]).find? (!·.isUnknown) =
      (observed.find? (!·.isUnknown)).or ([port].find? (!·.isUnknown)) := List.find?_append
  constructor
  · simp [Ports.observe]
  · intro known
    have same := tracks.preset known
    rw [observe_of_known, same]
    rw [same]
    simpa using known
  · intro zero other found
    rw [first] at found
    cases before : observed.find? (!·.isUnknown) with
    | some earlier =>
      rw [before] at found
      cases found
      have same := tracks.adopted zero other before
      have known := List.find?_some before
      rw [observe_of_known, same]
      rw [same]
      simpa using known
    | none =>
      rw [before] at found
      have same := List.mem_of_find?_eq_some found
      rw [observe_of_unknown (tracks.unknown zero before)]
      exact (List.mem_singleton.mp same).symm
  · intro zero missing
    rw [first, Option.or_eq_none_iff] at missing
    obtain ⟨before, last⟩ := missing
    rw [observe_of_unknown (tracks.unknown zero before)]
    simpa using last

theorem Tracks.settled (tracks : Tracks configured observed ports) (known : ports.desired.isUnknown = false)
    {more : List Port} {later : Ports} (tracksLater : Tracks configured (observed ++ more) later) :
    later.desired = ports.desired := by
  by_cases zero : configured = 0
  · cases before : observed.find? (!·.isUnknown) with
    | some first =>
      have found : (observed ++ more).find? (!·.isUnknown) = some first := by
        rw [List.find?_append, before]
        rfl
      rw [tracks.adopted zero first before, tracksLater.adopted zero first found]
    | none =>
      rw [tracks.unknown zero before] at known
      cases known
  · rw [tracks.preset zero, tracksLater.preset zero]

end Ports

def Request.observed? : Request → Option Port
  | .observePort port => some port
  | _ => none

namespace Act

/-- The ports that were observed, in order. -/
def observed (acts : List Act) : List Port := acts.filterMap (·.request.observed?)

@[simp]
theorem observed_nil : observed [] = [] := rfl

theorem observed_append (first rest : List Act) : observed (first ++ rest) = observed first ++ observed rest :=
  List.filterMap_append

theorem observed_eq_nil {acts : List Act} (unnoted : ∀ act ∈ acts, act.request.observed? = none) : observed acts = [] :=
  List.filterMap_eq_nil_iff.mpr unnoted

end Act

/-- Whatever is asked, the ports track what was observed. -/
theorem Ports.Tracks.answers {configured : Int} {observed : List Port} {world last : World} {acts : List Act}
    (tracks : Tracks configured observed world.ports) (answered : Program.Answers answer world acts last) :
    Tracks configured (observed ++ Act.observed acts) last.ports := by
  induction answered generalizing observed with
  | nil => simpa [Act.observed] using tracks
  | @cons request world acts last rest ih =>
    cases noted : request.observed? with
    | some port =>
      cases request with
      | observePort other =>
        cases noted
        have later := ih (tracks.observe port)
        simpa [Act.observed, Request.observed?] using later
      | _ => cases noted
    | none =>
      have kept : (answer request world).2.ports = world.ports := by
        apply World.answer_ports
        rintro port rfl
        cases noted
      rw [← kept] at tracks
      simpa [Act.observed, noted] using ih tracks

private theorem World.observed_history {α : Type} (world : World) (job : Job α) :
    Act.observed (job.history answer world) = Act.observed (world.acts job) := by
  unfold World.acts Act.observed
  rw [List.filterMap_filter]
  congr 1
  funext act
  obtain ⟨request, reply⟩ := act
  cases request <;> rfl

namespace ServicePass

open Cluster (Service)

/-- The port that a service pass observes, if it comes to that: the target of the server's first port. -/
def target? (world : World) (setup : Setup) (services : List (Option Service)) (mode : Mode) : Option Port :=
  if setup.tag.isEmpty || (world.metalFaults.next .list).1.isSome then none
  else match Reservation.firstWith [setup.tag] world.ledger with
    | none => none
    | some reservation =>
      if 1 < reservation.assignments.length then none
      else match chosen mode services with
        | .ok (some (first, _)) => (targetIn first).toOption
        | _ => none

private theorem unobserved {timeout : Option Duration} {space name eip : String}
    {ports : List (Option Cluster.ServicePort)} {acts : List Act} {result : Except Failure Unit}
    (done : Job.Does (do
      mirrorEndpoints timeout space name
      mirrorService timeout eip ports
      publishStatus timeout eip) acts result) : Act.observed acts = [] := by
  let unnoted (request : Request) : Prop := request.observed? = none
  have log : ∀ record, unnoted (.log record) := fun _ => rfl
  have call : ∀ call, Publishing (fun _ => True) eip ports call → unnoted (.cluster call timeout) := fun _ _ => rfl
  apply Act.observed_eq_nil
  refine Job.uses_acts (.bind (uses_mirrorEndpoints log timeout call ..) fun _ => ?_) done
  exact .bind (honours_mirrorService log timeout call).uses fun _ => uses_publishStatus log timeout call

private theorem observed_mirror {timeout : Option Duration} {space name eip : String} {first : Cluster.ServicePort}
    {others : List (Option Cluster.ServicePort)} {acts : List Act} {result : Except Failure Unit}
    (done : Job.Does (mirror timeout space name first others eip) acts result) :
    Act.observed acts = (targetIn first).toOption.toList := by
  have steps := does_mirror.mp done
  cases points : targetIn first with
  | error failure =>
    rw [points] at steps
    rw [steps.1]
    rfl
  | ok target =>
    rw [points] at steps
    obtain ⟨before, rest, rfl, later⟩ := steps
    change target :: Act.observed rest = [target]
    rw [unobserved later]

/-- What a pass observes is decided by its setup, by the services and by the reservations. -/
theorem observed_run (world : World) (setup : Setup) (services : List (Option Service)) (mode : Mode) :
    Act.observed (world.acts (run setup services mode)) = (target? world setup services mode).toList := by
  obtain ⟨last, answered, -⟩ := world.run_answers (run setup services mode)
  have steps := does_run.mp (world.does_acts (run setup services mode))
  generalize world.acts (run setup services mode) = acts at answered steps ⊢
  unfold target?
  by_cases blank : setup.tag.isEmpty = true
  · rw [if_pos blank] at steps
    rw [steps.1, blank]
    rfl
  rw [if_neg blank] at steps
  obtain ⟨reply, rest, rfl, later⟩ := steps
  obtain ⟨told, -⟩ := Program.answers_cons.mp answered
  change Act.observed rest = _
  cases reply with
  | error failure =>
    have due : (world.metalFaults.next .list).1 = some failure :=
      (World.answer_metal_error (.list setup.project true) failure told).1
    rw [due, later.1]
    simp
  | ok reservations =>
    obtain ⟨due, same, -⟩ := World.answer_metal_ok (.list setup.project true) reservations told
    obtain rfl : reservations = world.ledger := same
    have undue : (world.metalFaults.next .list).1 = none := due
    rw [undue, if_neg (by simpa using blank)]
    simp only [Except.map] at later
    cases matched : Reservation.firstWith [setup.tag] world.ledger with
    | none =>
      simp only [matched] at later
      rw [later.1]
      rfl
    | some reservation =>
      simp only [matched] at later ⊢
      by_cases several : 1 < reservation.assignments.length
      · rw [if_pos several] at later ⊢
        rw [later.1]
        rfl
      rw [if_neg several, does_mirrorFirst] at later
      rw [if_neg several]
      rcases picked : chosen mode services with failure | _ | ⟨first, others⟩
      · simp only [picked] at later
        rw [later.1]
        rfl
      · simp only [picked] at later
        rw [later.1]
        rfl
      · simp only [picked] at later
        obtain ⟨result, mirrored, -⟩ := later
        exact observed_mirror mirrored

end ServicePass

/-- The requests that a sync makes besides its passes. -/
def Request.isListing : Request → Bool
  | .log _ | .cluster .listNodes _ => true
  | _ => false

theorem NodePass.observed_run (world : World) (setup : Setup) (nodes : List (Option Cluster.Node)) :
    Act.observed ((run setup nodes).history answer world) = [] := by
  apply Act.observed_eq_nil
  intro act member
  have asked := (uses_run setup nodes).ends (Program.ends_history answer _ world) act member
  generalize act.request = request at asked
  cases request with
  | observePort port => rcases asked with work | guard <;> contradiction
  | _ => rfl

namespace Sync

/-- What a sync does after its service half: it lists the nodes, and a node pass runs if they are listed. -/
inductive Rest (settings : Settings) (left : World) : List Act → Prop where
  | unlisted {acts} (listing : ∀ act ∈ acts, act.request.isListing = true) : Rest settings left acts
  | passed {before after : List Act} {listed : World} {nodes} (listing : ∀ act ∈ before, act.request.isListing = true)
      (answered : Program.Answers answer left before listed) (closing : ∀ act ∈ after, act.request.isListing = true) :
      Rest settings left (before ++ (NodePass.run settings.nodeSetup nodes).history answer listed ++ after)

private theorem history_half {α : Type} (name : String) (word : α → String) (pass : Job α) (world : World) :
    ∃ records, (half name word pass).history answer world = pass.history answer world ++ records ∧
      ∀ act ∈ records, act.request.isListing = true := by
  unfold half
  rw [Program.history_andThen]
  refine ⟨_, rfl, ?_⟩
  rcases Program.run answer pass world with ⟨(problem | crash) | outcome, last⟩
  · intro act member
    obtain rfl := List.mem_singleton.mp member
    rfl
  · exact fun _ => nofun
  · intro act member
    obtain rfl := List.mem_singleton.mp member
    rfl

variable {settings : Settings} {left : World}

theorem Rest.append {acts more : List Act} (rest : Rest settings left acts)
    (closing : ∀ act ∈ more, act.request.isListing = true) : Rest settings left (acts ++ more) := by
  cases rest with
  | unlisted listing => exact .unlisted (List.forall_mem_append.mpr ⟨listing, closing⟩)
  | passed listing answered records =>
    rw [List.append_assoc]
    exact .passed listing answered (List.forall_mem_append.mpr ⟨records, closing⟩)

theorem Rest.cons {request : Request} {reply : request.Reply} {next : World} {acts : List Act}
    (told : answer request left = (reply, next)) (listing : request.isListing = true)
    (rest : Rest settings next acts) : Rest settings left (⟨request, reply⟩ :: acts) := by
  have first : ∀ {last acts}, Program.Answers answer next acts last →
      Program.Answers answer left (⟨request, reply⟩ :: acts) last := by
    intro last acts answered
    rw [Program.answers_cons, told]
    exact ⟨rfl, answered⟩
  cases rest with
  | unlisted others => exact .unlisted (List.forall_mem_cons.mpr ⟨listing, others⟩)
  | passed others answered closing =>
    exact .passed (List.forall_mem_cons.mpr ⟨listing, others⟩) (first answered) closing

theorem Rest.observed {acts : List Act} (rest : Rest settings left acts) : Act.observed acts = [] := by
  have unnoted {acts : List Act} (listing : ∀ act ∈ acts, act.request.isListing = true) : Act.observed acts = [] := by
    apply Act.observed_eq_nil
    intro act member
    have among := listing act member
    generalize act.request = request at among
    cases request with
    | observePort port => cases among
    | _ => rfl
  cases rest with
  | unlisted listing => exact unnoted listing
  | passed listing _ closing =>
    rw [Act.observed_append, Act.observed_append, unnoted listing, unnoted closing, NodePass.observed_run]
    rfl

private theorem rest_nodes (settings : Settings) (left : World) : Rest settings left ((nodes settings).history answer left) := by
  change Rest settings left (Program.history answer (Program.ask (.cluster .listNodes settings.callLimit) _) left)
  rcases told : answer (.cluster .listNodes settings.callLimit) left with ⟨reply, listed⟩
  unfold Program.history
  rw [told]
  apply Rest.cons told rfl
  rcases reply with (fault | crash) | nodes
  · exact .unlisted (List.forall_mem_nil _)
  · exact .unlisted (List.forall_mem_nil _)
  · have passed : Rest settings listed ([] ++ (NodePass.run settings.nodeSetup nodes).history answer listed ++ []) :=
      .passed (List.forall_mem_nil _) (.nil _) (List.forall_mem_nil _)
    rw [List.append_nil] at passed
    exact passed

/-- A sync goes on after its service half in one way, be it that the half was well or met a problem. -/
theorem rest_half (settings : Settings) (left : World) (service : Option ServicePass.Outcome) (problems : List Problem) :
    Rest settings left (Program.history answer (do
      let (node, nodeProblems) ← half "Node" NodePass.Outcome.word (nodes settings)
      return (⟨service, node, problems ++ nodeProblems⟩ : SyncReport)) left) := by
  change Rest settings left (Program.history answer (Program.bind _ _) left)
  unfold Program.bind
  rw [Program.history_andThen]
  obtain ⟨records, same, closing⟩ := history_half "Node" NodePass.Outcome.word (nodes settings) left
  rw [same]
  apply ((rest_nodes settings left).append closing).append
  split <;> exact List.forall_mem_nil _

theorem history_run (world : World) (settings : Settings) (mode : ServicePass.Mode) :
    ∃ rest, (run settings mode).history answer world = (services settings mode).history answer world ++ rest ∧
      Rest settings (world.run (services settings mode)).2 rest := by
  change ∃ rest, Program.history answer (Program.bind (Program.andThen _ _) _) world = _ ∧ _
  unfold Program.bind World.run
  rw [Program.andThen_andThen, Program.history_andThen]
  refine ⟨_, rfl, ?_⟩
  rcases Program.run answer (services settings mode) world with ⟨(problem | crash) | outcome, left⟩
  · exact Rest.cons rfl rfl (rest_half settings _ none [problem])
  · exact .unlisted (List.forall_mem_nil _)
  · exact Rest.cons rfl rfl (rest_half settings _ (some outcome) [])

/-- What the service half observes is what a pass over the listed services observes, if they are listed. -/
theorem observed_services (world : World) (settings : Settings) (mode : ServicePass.Mode) :
    Act.observed ((services settings mode).history answer world) =
      if (world.clusterFaults.next .listServices).1.isSome then []
      else (ServicePass.target? world settings.serviceSetup world.cluster.services mode).toList := by
  change Act.observed (Program.history answer (Program.ask (.cluster .listServices settings.callLimit) _) world) = _
  have answered := World.answer_call .listServices settings.callLimit world
  have still := World.cluster_answered .listServices settings.callLimit world
  unfold Program.history
  generalize World.answer (.cluster .listServices settings.callLimit) world = told at answered still ⊢
  obtain ⟨reply, listed⟩ := told
  obtain ⟨_, _, _, rfl⟩ := still
  rcases answered with ⟨failure, due, rfl, -⟩ | ⟨undue, rfl, -⟩
  · have fails : (world.clusterFaults.next .listServices).1 = some failure := due
    rw [fails]
    cases failure <;> rfl
  · have succeeds : (world.clusterFaults.next .listServices).1 = none := undue
    rw [succeeds]
    exact (World.observed_history _ _).trans (ServicePass.observed_run _ _ _ _)

end Sync

namespace World

/-- The port that an action observes, if it comes to that. -/
def sees (world : World) : Action → List Port
  | .servicePass setup services mode => (ServicePass.target? world setup services mode).toList
  | .sync settings mode =>
    if (world.clusterFaults.next .listServices).1.isSome then []
    else (ServicePass.target? world settings.serviceSetup world.cluster.services mode).toList
  | .observePort port => [port]
  | .nodePass .. | .enterGuard | .leaveGuard | .outside .. => []

/-- The ports that a run observes, in order. -/
def seen (world : World) : List Action → List Port
  | [] => []
  | action :: actions => world.sees action ++ (world.afterAction action).seen actions

/-- All that is asked during an action, records included. -/
def course (world : World) : Action → List Act
  | .nodePass setup nodes => (NodePass.run setup nodes).history answer world
  | .servicePass setup services mode => (ServicePass.run setup services mode).history answer world
  | .sync settings mode => (Sync.run settings mode).history answer world
  | .observePort port => (Job.observePort port).history answer world
  | .enterGuard | .leaveGuard | .outside .. => []

theorem observed_course (world : World) (action : Action) : Act.observed (world.course action) = world.sees action := by
  cases action with
  | servicePass setup services mode =>
    exact (observed_history world _).trans (ServicePass.observed_run world setup services mode)
  | nodePass setup nodes => exact NodePass.observed_run world setup nodes
  | sync settings mode =>
    obtain ⟨rest, same, later⟩ := Sync.history_run world settings mode
    change Act.observed ((Sync.run settings mode).history answer world) = _
    rw [same, Act.observed_append, Sync.observed_services, later.observed, List.append_nil]
    rfl
  | observePort port =>
    obtain ⟨before, acts, -⟩ := ServicePass.does_observePort.mp (world.does_acts (Job.observePort port))
    exact (observed_history world _).trans (congrArg Act.observed acts)
  | enterGuard | leaveGuard | outside => rfl

section

variable {configured : Int} {observed : List Port} {world : World}

private theorem tracks_afterAction (tracks : Ports.Tracks configured observed world.ports) (action : Action) :
    Ports.Tracks configured (observed ++ world.sees action) (world.afterAction action).ports := by
  have job {α : Type} (job : Job α) :
      Ports.Tracks configured (observed ++ Act.observed (job.history answer world)) (world.run job).2.ports :=
    tracks.answers (Program.answers_history answer job world)
  rw [← observed_course]
  cases action with
  | enterGuard | leaveGuard | outside =>
    change Ports.Tracks configured (observed ++ []) world.ports
    rw [List.append_nil]
    exact tracks
  | _ => exact job _

private theorem tracks_afterActions (tracks : Ports.Tracks configured observed world.ports) (actions : List Action) :
    Ports.Tracks configured (observed ++ world.seen actions) (world.afterActions actions).ports := by
  induction actions generalizing world observed with
  | nil =>
    rw [seen, List.append_nil]
    exact tracks
  | cons action actions ih =>
    have later := ih (tracks_afterAction tracks action)
    rw [List.append_assoc] at later
    exact later

theorem seen_append (first rest : List Action) :
    world.seen (first ++ rest) = world.seen first ++ (world.afterActions first).seen rest := by
  induction first generalizing world with
  | nil => rfl
  | cons action first ih =>
    simp only [List.cons_append, seen, ih, List.append_assoc]
    rfl

end

end World

/-- An instant of a run: some actions are over, and some acts of the next one. -/
structure Instant where
  actions : List Action
  action : Action
  past : List Act

/-- An instant goes before the later ones of its action, and before those of all later actions. -/
inductive Instant.Precedes : Instant → Instant → Prop where
  | within (actions action past more) : Precedes ⟨actions, action, past⟩ ⟨actions, action, past ++ more⟩
  | apart (actions action past between next part) :
      Precedes ⟨actions, action, past⟩ ⟨actions ++ action :: between, next, part⟩

namespace World

/-- A run comes to a state at an instant. -/
structure Reaches (start : World) (instant : Instant) (state : World) : Prop where
  within : instant.past <+: (start.afterActions instant.actions).course instant.action
  answered : Program.Answers answer (start.afterActions instant.actions) instant.past state

/-- The ports that were observed up to a moment. -/
def seenBy (start : World) (instant : Instant) : List Port := start.seen instant.actions ++ Act.observed instant.past

variable {configured : Int} {start state after : World} {instant later : Instant}

theorem Reaches.tracks (reaches : start.Reaches instant state)
    (begins : start.ports = .configured (.number configured)) :
    Ports.Tracks configured (start.seenBy instant) state.ports := by
  have first : Ports.Tracks configured [] start.ports := by
    rw [begins]
    exact Ports.tracks_configured configured
  exact (tracks_afterActions first instant.actions).answers reaches.answered

private theorem seenBy_prefix (precedes : instant.Precedes later) (reaches : start.Reaches instant state) :
    start.seenBy instant <+: start.seenBy later := by
  unfold seenBy
  cases precedes with
  | within actions action past more =>
    refine ⟨Act.observed more, ?_⟩
    simp only [Act.observed_append, List.append_assoc]
  | apart actions action past between next part =>
    obtain ⟨rest, whole⟩ := reaches.within
    have sees := observed_course (start.afterActions actions) action
    rw [← whole, Act.observed_append] at sees
    refine ⟨Act.observed rest ++
      (((start.afterActions actions).afterAction action).seen between ++ Act.observed part), ?_⟩
    simp only [seen_append, seen, ← sees, List.append_assoc]

/-- A desired port that is known at one moment is the desired port of every later one. -/
theorem Reaches.settled (begins : start.ports = .configured (.number configured)) (precedes : instant.Precedes later)
    (reaches : start.Reaches instant state) (reachesLater : start.Reaches later after)
    (known : state.ports.desired.isUnknown = false) : after.ports.desired = state.ports.desired := by
  obtain ⟨more, whole⟩ := seenBy_prefix precedes reaches
  have tracks := reachesLater.tracks begins
  rw [← whole] at tracks
  exact (reaches.tracks begins).settled known tracks

end World

end ElasticEndpoint
