import ElasticEndpoint.Proofs.ElasticSpared
import ElasticEndpoint.Proofs.PortRuns

/-!
The ports of probes. The elastic address is probed at the port that is desired at that moment and the candidates are
probed at the port of the nodes; the first read of a node tells the one probe from the others.
-/

namespace ElasticEndpoint

open World (answer)

/-- An address that a node reported when it was read. -/
def Act.Reported (past : List Act) (address : String) : Prop :=
  ∃ name timeout reply addresses target, Act.cluster (.readNode name) timeout reply ∈ past ∧
    Instance.addressesIn name reply = .ok addresses ∧ target ∈ addresses ∧ target.address = address

/-- A probe of an address that a node reported before. -/
def Failover.Tries (limits : Limits) (port : Net.Port) (past : List Act) (request : Http.Request) : Prop :=
  ∃ address, Act.Reported past address ∧ request = Health.request limits.probe (Net.healthUrl address port)

/-- What a probe of a node pass is aimed at: the elastic address of the listing, as long as no node was read, and a
candidate after that. -/
inductive NodePass.Aimed (setup : Setup) (ports : Ports) (past : List Act) (request : Http.Request) : Prop where
  | elastic (unread : Act.reads past = []) (reservations reservation)
      (listed : Act.metal (.list setup.project true) (.ok reservations) ∈ past)
      (matched : Reservation.firstWith [setup.tag] reservations = some reservation)
      (asks : request = Health.request setup.limits.probe (Net.healthUrl reservation.address ports.desired))
  | candidate (read : Act.reads past ≠ []) (tries : Failover.Tries setup.limits ports.node past request)

namespace Act

theorem Reported.append {past : List Act} {address : String} (reported : Reported past address) (before : List Act) :
    Reported (before ++ past) address := by
  obtain ⟨name, timeout, reply, addresses, target, member, rest⟩ := reported
  exact ⟨name, timeout, reply, addresses, target, List.mem_append_right _ member, rest⟩

theorem Reported.read {past : List Act} {address : String} (reported : Reported past address) : reads past ≠ [] := by
  obtain ⟨name, timeout, reply, -, -, member, -⟩ := reported
  intro unread
  have silent := List.filterMap_eq_nil_iff.mp unread _ member
  cases silent

end Act

/-- Every request over HTTP is right for the state it is made in and for what went before it. -/
def World.Probes (right : World → List Act → Http.Request → Prop) (world : World) (acts : List Act) : Prop :=
  ∀ past request outcome rest state, acts = past ++ Act.http request outcome :: rest →
    Program.Answers answer world past state → right state past request

namespace World

variable {right : World → List Act → Http.Request → Prop} {world : World} {acts more : List Act}

private theorem probes_silent (silent : Act.urls acts = []) : world.Probes right acts := by
  rintro past request outcome rest state rfl -
  rw [Act.urls_append] at silent
  cases (List.append_eq_nil_iff.mp silent).2

private theorem probes_single {request : Http.Request} {outcome : Http.Outcome} (aimed : ∀ state, right state [] request) :
    world.Probes right [Act.http request outcome] := by
  intro past asked given rest state split _
  cases past with
  | nil =>
    cases split
    exact aimed state
  | cons act past =>
    obtain ⟨-, impossible⟩ := List.cons.inj split
    cases past <;> cases impossible

theorem Probes.append (first : world.Probes right acts)
    (later : ∀ middle, Program.Answers answer world acts middle →
      middle.Probes (fun state past => right state (acts ++ past)) more) :
    world.Probes right (acts ++ more) := by
  intro past request outcome rest state split answered
  rcases List.append_eq_append_iff.mp split with ⟨part, rfl, remaining⟩ | ⟨part, rfl, remaining⟩
  · obtain ⟨middle, before, after⟩ := Program.answers_append.mp answered
    exact later middle before part request outcome rest state remaining after
  · cases part with
    | nil =>
      rw [List.append_nil] at later
      have aimed : right state (past ++ []) request :=
        later state answered [] request outcome rest state remaining.symm (.nil _)
      rw [List.append_nil] at aimed
      exact aimed
    | cons act part =>
      obtain ⟨rfl, -⟩ := List.cons.inj remaining
      exact first past request outcome part state rfl answered

theorem Probes.imp {other : World → List Act → Http.Request → Prop} (probes : world.Probes right acts)
    (weaker : ∀ state past request, right state past request → other state past request) :
    world.Probes other acts :=
  fun past request outcome rest state split answered =>
    weaker state past request (probes past request outcome rest state split answered)

end World

namespace Failover

variable {limits : Limits} {port : Net.Port} {eipUrl : String} {acts : List Act} {finding : Finding}

theorem Tries.after {past : List Act} {request : Http.Request} (tries : Tries limits port past request)
    (before : List Act) : Tries limits port (before ++ past) request := by
  obtain ⟨address, reported, asks⟩ := tries
  exact ⟨address, reported.append before, asks⟩

theorem Tries.read {past : List Act} {request : Http.Request} (tries : Tries limits port past request) :
    Act.reads past ≠ [] := by
  obtain ⟨address, reported, -⟩ := tries
  exact reported.read

theorem Sweep.probes {name node : Option String} {reply : Except Cluster.CallFailure Cluster.Node}
    {addresses : List NodeAddress} (read : Instance.addressesIn name reply = .ok addresses)
    (swept : Sweep limits port eipUrl node addresses acts finding) (world : World) :
    world.Probes (fun _ => Tries limits port) ([look limits name reply] ++ acts) := by
  apply World.Probes.append
  · exact World.probes_silent rfl
  · rintro _ - past request outcome rest state rfl -
    obtain ⟨target, among, _, -, same⟩ := swept.checks (Act.http request outcome) (by simp)
    cases same
    exact ⟨target.address, ⟨name, limits.api, reply, addresses, target, by simp, read, among, rfl⟩, rfl⟩

theorem Search.probes {nodes : List (Option Cluster.Node)}
    (searched : Search limits port eipUrl nodes acts finding) (world : World) :
    world.Probes (fun _ => Tries limits port) acts := by
  induction searched generalizing world with
  | spent | blank | unread => exact World.probes_silent rfl
  | ended _ read swept _ => exact swept.probes read world
  | passed _ read swept _ ih =>
    apply (swept.probes read world).append
    intro middle _
    exact (ih middle).imp fun _ _ _ tries => tries.after _

/-- A failover probes at the port of the nodes that it was told. -/
theorem probes_run {nodes : List (Option Cluster.Node)} {reservation : Reservation} {result : Except Failure Move}
    (done : Job.Does (run limits nodes reservation eipUrl) acts result) (single : reservation.assignments.length ≤ 1) :
    ∃ (ports : Ports) (rest : List Act), acts = ⟨.ports, ports⟩ :: rest ∧
      ∀ world : World, world.Probes (fun _ => Tries limits ports.node) acts := by
  obtain ⟨ports, rest, rfl, later⟩ := does_run done
  refine ⟨ports, rest, rfl, fun world => ?_⟩
  split at later
  · obtain ⟨rfl, -⟩ := later
    exact World.probes_silent rfl
  rw [if_neg (Nat.not_lt.mpr single)] at later
  obtain ⟨sought, finding, closing, rfl, searched, settled⟩ := later
  have looked : world.Probes (fun _ => Tries limits ports.node) [⟨.ports, ports⟩] := World.probes_silent rfl
  apply looked.append
  intro middle _
  have tried : middle.Probes (fun _ past => Tries limits ports.node ([⟨.ports, ports⟩] ++ past)) sought :=
    (searched.probes middle).imp fun _ _ _ tries => tries.after _
  exact tried.append fun _ _ => World.probes_silent (settled.acts single).1

end Failover

namespace NodePass

theorem Aimed.after {setup : Setup} {ports : Ports} {past : List Act} {request : Http.Request}
    (aimed : Aimed setup ports past request) {before : List Act} (unread : Act.reads before = []) :
    Aimed setup ports (before ++ past) request := by
  cases aimed with
  | elastic unreadToo reservations reservation listed matched asks =>
    refine .elastic ?_ reservations reservation (List.mem_append_right _ listed) matched asks
    rw [Act.reads_append, unread, unreadToo]
    rfl
  | candidate read tries =>
    refine .candidate ?_ (tries.after before)
    rw [Act.reads_append, unread]
    exact read

variable {setup : Setup} {nodes : List (Option Cluster.Node)}

/-- The one check that may go before a failover is of the address in the listing. -/
theorem probes_lead {ports : Ports} {reservations : List Reservation} {reservation : Reservation} {checks : List Act}
    (matched : Reservation.firstWith [setup.tag] reservations = some reservation)
    (checked : checks = [] ∨ ∃ outcome, checks = [Act.http (Health.request setup.limits.probe
      (Net.healthUrl reservation.address ports.desired)) outcome]) (world : World) :
    world.Probes (fun _ => Aimed setup ports) (⟨.enterGuard, true⟩ :: lead setup ports reservations checks) := by
  rcases checked with rfl | ⟨outcome, rfl⟩
  · exact World.probes_silent rfl
  · have opening : world.Probes (fun _ => Aimed setup ports)
        (⟨.enterGuard, true⟩ :: lead setup ports reservations []) := World.probes_silent rfl
    apply opening.append
    intro middle _
    apply World.probes_single
    intro state
    refine .elastic rfl reservations reservation ?_ matched rfl
    simp [lead]

theorem Gate.checks {ports : Ports} {reservations : List Reservation} {reservation : Reservation} {checks : List Act}
    (gate : Gate setup ports reservations reservation checks) :
    checks = [] ∨ ∃ outcome, checks = [Act.http (Health.request setup.limits.probe
      (Net.healthUrl reservation.address ports.desired)) outcome] := by
  have checked := gate.checked
  split at checked
  · exact .inl checked
  · obtain ⟨outcome, same, -⟩ := checked
    exact .inr ⟨outcome, same⟩

private theorem probes_acts (world : World) (setup : Setup) (nodes : List (Option Cluster.Node)) :
    world.Probes (fun _ => Aimed setup world.ports) (world.acts (run setup nodes)) := by
  obtain ⟨last, answered, -⟩ := world.run_answers (run setup nodes)
  have done := world.does_acts (run setup nodes)
  generalize (world.run (run setup nodes)).1 = result at done
  generalize world.acts (run setup nodes) = acts at answered done ⊢
  rcases does_run_cases done with ⟨state, rfl, rfl⟩ | ⟨within, middle, left, rfl, rfl, stopped |
    ⟨ports, reservations, reservation, checks, candidates, tried, moved, gate, members, failover, rfl, rfl⟩⟩
  · exact World.probes_silent rfl
  · cases stopped with
    | answered matched bound verdict =>
      obtain ⟨-, rfl, -⟩ := opened answered
      exact (probes_lead matched (.inr ⟨_, rfl⟩) world).append fun _ _ => World.probes_silent rfl
    | blank gate missing =>
      obtain ⟨-, rfl, -⟩ := opened answered
      exact (probes_lead gate.matched gate.checks world).append fun _ _ => World.probes_silent rfl
    | _ => exact World.probes_silent rfl
  · obtain ⟨seen, rest, rfl, probes⟩ := Failover.probes_run failover gate.single
    have shape : (⟨.enterGuard, true⟩ : Act) :: (lead setup ports reservations checks ++
        (⟨.ports, seen⟩ :: rest ++ remembered moved) ++ [⟨.leaveGuard, left⟩]) =
          (⟨.enterGuard, true⟩ :: lead setup ports reservations checks) ++
            (⟨.ports, seen⟩ :: rest ++ (remembered moved ++ [⟨.leaveGuard, left⟩])) := by simp
    rw [shape] at answered ⊢
    obtain ⟨-, rfl, -⟩ := opened answered
    obtain rfl : seen = world.ports := by
      apply World.ports_seen answered
      rcases gate.checks with rfl | ⟨outcome, rfl⟩ <;> simp [lead]
    apply (probes_lead gate.matched gate.checks world).append
    intro middle _
    have unread : Act.reads (⟨.enterGuard, true⟩ :: lead setup world.ports reservations checks) = [] := gate.untouched.1
    apply World.Probes.append
    · refine (probes middle).imp fun _ past request tries => ?_
      have aimed : Aimed setup world.ports past request := .candidate tries.read tries
      exact aimed.after unread
    · exact fun _ _ => World.probes_silent (closing_untouched moved left).2.2

private theorem Aimed.of_acts {ports : Ports} {past : List Act} {request : Http.Request}
    (aimed : Aimed setup ports (past.filter (!·.request.isLog)) request) : Aimed setup ports past request := by
  have same : Act.reads (past.filter (!·.request.isLog)) = Act.reads past := by
    unfold Act.reads
    rw [List.filterMap_filter]
    congr 1
    funext act
    obtain ⟨request, reply⟩ := act
    cases request <;> rfl
  cases aimed with
  | elastic unread reservations reservation listed matched asks =>
    exact .elastic (same ▸ unread) reservations reservation (List.mem_filter.mp listed).1 matched asks
  | candidate read tries =>
    obtain ⟨address, ⟨name, timeout, reply, addresses, target, member, reports⟩, asks⟩ := tries
    exact .candidate (same ▸ read)
      ⟨address, ⟨name, timeout, reply, addresses, target, (List.mem_filter.mp member).1, reports⟩, asks⟩

/-- No port is observed in a node pass, so the ports of a probe are those of its moment. -/
theorem probes_run (world : World) (setup : Setup) (nodes : List (Option Cluster.Node)) :
    world.Probes (fun state past request => Aimed setup state.ports past request)
      ((run setup nodes).history answer world) := by
  intro past request outcome rest state split answered
  obtain ⟨after, answeredActs, -⟩ := Job.answers_acts World.Same (fun _ _ _ same => same)
    (fun request _ _ same => same.answer request) answered (.refl world)
  have parts : world.acts (run setup nodes) =
      past.filter (!·.request.isLog) ++ Act.http request outcome :: rest.filter (!·.request.isLog) := by
    unfold World.acts
    rw [split, List.filter_append]
    rfl
  have aimed := probes_acts world setup nodes _ request outcome _ after parts answeredActs
  have held : ∀ act ∈ past, ∀ before : World, before.ports = world.ports →
      (answer act.request before).2.ports = world.ports := by
    intro act member before kept
    have unnoted := List.filterMap_eq_nil_iff.mp (observed_run world setup nodes) act
      (split ▸ List.mem_append_left _ member)
    refine (World.answer_ports (fun port same => ?_) before).trans kept
    rw [same] at unnoted
    cases unnoted
  have kept : state.ports = world.ports := answered.keeps held rfl
  rw [kept]
  exact aimed.of_acts

end NodePass

/-- A request that reads no node and sends nothing over HTTP. -/
def Request.IsAloof (request : Request) : Prop := request.nodeRead? = none ∧ request.url? = none

private theorem Act.aloof {acts : List Act} (aloof : ∀ act ∈ acts, act.request.IsAloof) : reads acts = [] ∧ urls acts = [] :=
  ⟨List.filterMap_eq_nil_iff.mpr fun act member => (aloof act member).1,
    List.filterMap_eq_nil_iff.mpr fun act member => (aloof act member).2⟩

private theorem ServicePass.aloof_run (setup : Setup) (services : List (Option Cluster.Service)) (mode : Mode) :
    (run setup services mode).Uses Request.IsAloof := by
  apply Program.Honours.uses
  apply honours_run
  · exact fun _ => ⟨rfl, rfl⟩
  · exact ⟨rfl, rfl⟩
  · exact fun _ => ⟨rfl, rfl⟩
  · intro _ _ _ _ _ _ call publishing
    cases publishing <;> exact ⟨rfl, rfl⟩

namespace Sync

private theorem aloof_services (settings : Settings) (mode : ServicePass.Mode) :
    (services settings mode).Uses Request.IsAloof := by
  refine .bind (Job.uses_cluster ⟨rfl, rfl⟩) fun listed => ?_
  split
  · exact ServicePass.aloof_run ..
  · trivial

private theorem probes_run (world : World) (settings : Settings) (mode : ServicePass.Mode) :
    world.Probes (fun state past request => NodePass.Aimed settings.nodeSetup state.ports past request)
      ((run settings mode).history answer world) := by
  have listing {acts : List Act} (listing : ∀ act ∈ acts, act.request.isListing = true) :
      ∀ act ∈ acts, act.request.IsAloof := by
    intro act member
    have among := listing act member
    generalize act.request = request at among
    cases request with
    | cluster call timeout =>
      cases call with
      | listNodes => exact ⟨rfl, rfl⟩
      | _ => cases among
    | log record => exact ⟨rfl, rfl⟩
    | _ => cases among
  obtain ⟨rest, same, later⟩ := history_run world settings mode
  obtain ⟨unread, silent⟩ :=
    Act.aloof ((aloof_services settings mode).ends (Program.ends_history answer (services settings mode) world))
  rw [same]
  refine World.Probes.append (World.probes_silent silent) fun left answered => ?_
  obtain rfl := answered.unique (Program.answers_history answer _ world)
  cases later with
  | unlisted plain => exact World.probes_silent (Act.aloof (listing plain)).2
  | @passed before after listed nodes plain told closing =>
    obtain ⟨unreadToo, silentToo⟩ := Act.aloof (listing plain)
    rw [List.append_assoc]
    refine World.Probes.append (World.probes_silent silentToo) fun middle answered => ?_
    obtain rfl := answered.unique told
    refine World.Probes.append ?_ fun _ _ => World.probes_silent (Act.aloof (listing closing)).2
    refine (NodePass.probes_run _ _ _).imp fun state past request aimed => ?_
    exact (aimed.after unreadToo).after unread

end Sync

/-- The setup of the node pass that an action makes. -/
def Action.nodeSetup? : Action → Option NodePass.Setup
  | .nodePass setup _ => some setup
  | .sync settings _ => some settings.nodeSetup
  | _ => none

/-- Every request over HTTP of an action is aimed at the port of its moment. -/
theorem World.probes_course (world : World) (action : Action) :
    world.Probes (fun state past request => ∃ setup, action.nodeSetup? = some setup ∧
      NodePass.Aimed setup state.ports past request) (world.course action) := by
  cases action with
  | nodePass setup nodes =>
    exact (NodePass.probes_run world setup nodes).imp fun _ _ _ aimed => ⟨setup, rfl, aimed⟩
  | sync settings mode =>
    exact (Sync.probes_run world settings mode).imp fun _ _ _ aimed => ⟨settings.nodeSetup, rfl, aimed⟩
  | servicePass setup services mode =>
    exact probes_silent (Act.aloof ((ServicePass.aloof_run setup services mode).ends (Program.ends_history ..))).2
  | observePort port =>
    have observing : (Job.observePort port).Uses Request.IsAloof :=
      (Job.honours_observePort (fun _ => ⟨rfl, rfl⟩) ⟨rfl, rfl⟩).uses
    exact probes_silent (Act.aloof (observing.ends (Program.ends_history answer _ world))).2
  | enterGuard | leaveGuard | outside => exact probes_silent rfl

end ElasticEndpoint
