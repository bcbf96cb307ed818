import ElasticEndpoint.Proofs.Convergence

/-!
Whether a failover spares the elastic address. The address is told from the candidates by its health address at
the port that is wanted, while the candidates are checked at the port of the nodes. So it is spared exactly
where the two ports are shown alike, or one of them is not known.
-/

namespace ElasticEndpoint

open World (answer)

/-- Health addresses of one address are told apart by their ports alone. -/
theorem Net.healthUrl_eq_iff {address : String} {port other : Port} :
    healthUrl address port = healthUrl address other ↔ port.shown = other.shown := by
  unfold healthUrl
  rw [String.append_left_inj, String.append_right_inj]

/-- As long as no port is observed, the ports that are seen are those of the start. -/
theorem World.ports_seen {before rest : List Act} {seen : Ports} {world last : World}
    (answered : Program.Answers answer world (before ++ ⟨.ports, seen⟩ :: rest) last)
    (still : ∀ act ∈ before, ∀ port, act.request ≠ .observePort port) : seen = world.ports := by
  obtain ⟨middle, prior, told⟩ := Program.answers_append.mp answered
  obtain ⟨same, -⟩ := Program.answers_cons.mp told
  have kept : middle.ports = world.ports :=
    prior.keeps (fun act member state held => (World.answer_ports (still act member) state).trans held) rfl
  exact same.trans kept

/-- The addresses that were checked for candidates, which is after the first look at a node. -/
def Act.probed (acts : List Act) : List String := urls (acts.dropWhile (·.request.nodeRead?.isNone))

namespace Act

theorem probed_append {before rest : List Act} (unread : reads before = []) :
    probed (before ++ rest) = probed rest := by
  unfold probed
  congr 1
  apply List.dropWhile_append_of_pos
  intro act member
  rw [Option.isNone_iff_eq_none]
  exact List.filterMap_eq_nil_iff.mp unread act member

private theorem probed_of_unread {acts : List Act} (unread : reads acts = []) : probed acts = [] := by
  rw [← List.append_nil acts, probed_append unread]
  rfl

private theorem probed_subset (acts : List Act) : probed acts ⊆ urls acts :=
  ((List.dropWhile_sublist _).filterMap _).subset

end Act

namespace Failover

variable {limits : Limits} {reservation : Reservation} {port : Net.Port} {eipUrl : String} {acts : List Act}

private theorem Sweep.found_checked {node other : Option String} {addresses : List NodeAddress} {finding : Finding}
    {address : String} (swept : Sweep limits port eipUrl node addresses acts finding)
    (found : finding = .found other address) : Net.healthUrl address port ∈ Act.urls acts := by
  induction swept with
  | spent => cases found
  | skipped _ _ ih => exact ih found
  | @unhealthy _ _ _ _ _ finding _ _ _ _ ih =>
    cases finding with
    | found _ _ => exact List.mem_cons_of_mem _ (ih found)
    | _ => cases found
  | healthy =>
    cases found
    exact List.mem_cons_self
  | broken => cases found

private theorem Search.found_checked {nodes : List (Option Cluster.Node)} {finding : Finding} {node : Option String}
    {address : String} (searched : Search limits port eipUrl nodes acts finding)
    (found : finding = .found node address) : Net.healthUrl address port ∈ Act.urls acts := by
  induction searched with
  | spent | blank | unread => cases found
  | ended _ _ swept _ => exact swept.found_checked found
  | @passed _ _ _ _ _ _ _ _ finding _ _ _ _ ih =>
    cases finding with
    | found _ _ =>
      change _ ∈ Act.urls (_ ++ _)
      rw [Act.urls_append]
      exact List.mem_append_right _ (ih found)
    | _ => cases found

private theorem move_checked {nodes : List (Option Cluster.Node)} {move : Move}
    (done : Job.Does (run limits nodes reservation eipUrl) acts (.ok move)) :
    ∃ (ports : Ports) (rest : List Act), acts = ⟨.ports, ports⟩ :: rest ∧ ports.node.isUnknown = false ∧
      Net.healthUrl move.address ports.node ∈ Act.urls rest := by
  obtain ⟨ports, rest, rfl, later⟩ := does_run done
  refine ⟨ports, rest, rfl, ?_⟩
  split at later
  · cases later.2
  next known =>
    split at later
    · cases later.2
    obtain ⟨sought, finding, closing, rfl, searched, settled⟩ := later
    refine ⟨by simpa using known, ?_⟩
    rw [Act.urls_append]
    cases finding with
    | lost | nothing => cases settled.2
    | found node address =>
      have checked := searched.found_checked rfl
      obtain ⟨reply, rest, rfl, handed⟩ := does_handOver.mp settled
      cases named : Instance.deviceIn node reply with
      | error failure =>
        simp only [named] at handed
        cases handed.2
      | ok device =>
        simp only [named] at handed
        obtain ⟨moved, -, same⟩ := handed
        cases moved with
        | error failure => cases same
        | ok previous =>
          cases same
          exact List.mem_append_left _ checked

end Failover

namespace NodePass

/-- A pass spares the elastic address if it does not check it for a candidate, and never moves to it. -/
def Spares (world : World) (setup : Setup) (nodes : List (Option Cluster.Node)) : Prop :=
  ∀ reservation, Reservation.firstWith [setup.tag] world.ledger = some reservation →
    Net.healthUrl reservation.address world.ports.node ∉ Act.probed (world.acts (run setup nodes)) ∧
      ((world.run (run setup nodes)).1 = .ok .reassigned →
        ∀ move, (world.run (run setup nodes)).2.lastMove = some move → move.address ≠ reservation.address)

private theorem spares_of_shown {world : World}
    (shown : world.ports.desired.isUnknown = true ∨ world.ports.node.isUnknown = true ∨
      world.ports.node.shown = world.ports.desired.shown) (setup : Setup) (nodes : List (Option Cluster.Node)) :
    Spares world setup nodes := by
  intro reservation matched
  obtain ⟨last, answered, same⟩ := world.run_answers (run setup nodes)
  have done := world.does_acts (run setup nodes)
  rw [same.still.lastMove]
  generalize (world.run (run setup nodes)).1 = result at done ⊢
  generalize world.acts (run setup nodes) = acts at answered done ⊢
  rcases does_run_cases done with ⟨state, rfl, rfl⟩ | ⟨within, middle, left, rfl, rfl, stopped |
    ⟨ports, reservations, listed, checks, candidates, tried, moved, gate, members, failover, rfl, rfl⟩⟩
  · refine ⟨by simp [Act.probed_of_unread, Act.reads, Request.nodeRead?], ?_⟩
    rintro ⟨⟩
  · constructor
    · have unread : Act.reads (⟨.enterGuard, true⟩ :: (within ++ [⟨.leaveGuard, left⟩])) = [] := by
        change Act.reads (within ++ _) = []
        rw [Act.reads_append, stopped.untouched.1]
        rfl
      rw [Act.probed_of_unread unread]
      exact List.not_mem_nil
    · intro reassigned
      cases left with
      | true => exact absurd reassigned stopped.quiet.2
      | false => cases reassigned
  obtain ⟨seen, rest, rfl, later⟩ := Failover.does_run failover
  have shape : (⟨.enterGuard, true⟩ : Act) :: (lead setup ports reservations checks ++
      (⟨.ports, seen⟩ :: rest ++ remembered moved) ++ [⟨.leaveGuard, left⟩]) =
        (⟨.enterGuard, true⟩ :: lead setup ports reservations checks) ++
          (⟨.ports, seen⟩ :: rest ++ (remembered moved ++ [⟨.leaveGuard, left⟩])) := by simp
  rw [shape] at answered ⊢
  obtain ⟨-, rfl, -, rfl, -⟩ := opened answered
  obtain rfl : seen = world.ports := by
    apply World.ports_seen answered
    have checked := gate.checked
    split at checked
    · subst checked
      simp [lead]
    · obtain ⟨outcome, rfl, -⟩ := checked
      simp [lead]
  have found := gate.matched
  rw [matched] at found
  cases found
  have unprobed : Net.healthUrl reservation.address world.ports.node ∉ Act.urls (⟨.ports, world.ports⟩ :: rest) := by
    rcases shown with unknown | unknown | same
    · rw [gate.known] at unknown
      cases unknown
    · rw [if_pos unknown] at later
      obtain ⟨rfl, -⟩ := later
      simp [Act.urls, Request.url?]
    · rw [Net.healthUrl_eq_iff.mpr same]
      exact (Failover.touches_of_run failover gate.single).1
  constructor
  · intro probed
    have unread : Act.reads (⟨.enterGuard, true⟩ :: lead setup world.ports world.ledger checks) = [] := gate.untouched.1
    rw [Act.probed_append unread] at probed
    have asked := Act.probed_subset _ probed
    rw [Act.urls_append, (closing_untouched moved left).2.2, List.append_nil] at asked
    exact unprobed asked
  · intro reassigned move remembers own
    cases moved with
    | error failure => cases left <;> cases reassigned
    | ok made =>
      obtain ⟨state, -, closing⟩ := Program.answers_append.mp answered
      obtain ⟨ended, -, remembering⟩ := Program.answers_append.mp closing
      obtain ⟨-, leaving⟩ := Program.answers_cons.mp remembering
      obtain ⟨-, closed⟩ := Program.answers_cons.mp leaving
      obtain rfl := Program.answers_nil.mp closed
      rw [World.answer_lastMove (by simp)] at remembers
      cases remembers
      obtain ⟨_, _, ⟨⟩, -, checked⟩ := Failover.move_checked failover
      exact unprobed (own ▸ checked)

def bearer : Cluster.Node where
  metadata := some { name := some "first", labels := some (Cluster.controlPlaneLabels.map (·, .text "")) }
  provider := some "packet://device"
  addresses := [some ⟨"ExternalIP", "1.2.3.4"⟩]

/-- The elastic address answers at the port of the nodes alone. -/
def World.listsElastic (ports : Ports) : World where
  cluster := { nodes := [some bearer] }
  ledger := [⟨"reservation", "1.2.3.4", ["eip"], [⟨"old", none, none⟩]⟩]
  script := .byTarget [("GET " ++ Net.healthUrl "1.2.3.4" ports.node, [.answered 200 []])]
  ports := ports

private theorem World.listsElastic_health (ports : Ports) (url : String) :
    (World.listsElastic ports).survey.health url =
      if url = Net.healthUrl "1.2.3.4" ports.node then .answered 200 [] else Http.Script.refused := by
  have served : (World.listsElastic ports).survey.health url =
      ((Http.Script.byTarget [("GET " ++ Net.healthUrl "1.2.3.4" ports.node, [.answered 200 []])]).serve
        (Health.request none url)).1 := rfl
  have target : (Health.request none url).method.name ++ " " ++ (Health.request none url).url = "GET " ++ url := rfl
  rw [served, Http.Script.serve, target]
  by_cases same : url = Net.healthUrl "1.2.3.4" ports.node
  · simp [same]
  · have other : ("GET " ++ url == "GET " ++ Net.healthUrl "1.2.3.4" ports.node) = false := by simpa using same
    simp [same, other, List.lookup_cons]

private theorem finding_listsElastic {ports : Ports}
    (apart : Net.healthUrl "1.2.3.4" ports.node ≠ Net.healthUrl "1.2.3.4" ports.desired) (limits : Failover.Limits) :
    (World.listsElastic ports).survey.finding limits (Net.healthUrl "1.2.3.4" ports.desired) [some bearer] =
      .found (some "first") "1.2.3.4" := by
  have candidate : Failover.isCandidate ports.node (Net.healthUrl "1.2.3.4" ports.desired) ⟨"ExternalIP", "1.2.3.4"⟩ =
      true := by simp [Failover.isCandidate, NodeAddress.isProbeTarget, apart]
  have targets : (World.listsElastic ports).survey.targets (Net.healthUrl "1.2.3.4" ports.desired) (some "first")
      [⟨"ExternalIP", "1.2.3.4"⟩] = [⟨some "first", "1.2.3.4"⟩] :=
    congrArg (List.map _) (List.filter_cons_of_pos candidate)
  have looked : (World.listsElastic ports).survey.lookup (Net.healthUrl "1.2.3.4" ports.desired) (some bearer) =
      .ok [⟨some "first", "1.2.3.4"⟩] := congrArg Except.ok targets
  have well : (World.listsElastic ports).survey.health
      (Net.healthUrl "1.2.3.4" (World.listsElastic ports).survey.ports.node) = .answered 200 [] :=
    (World.listsElastic_health ports _).trans (if_pos rfl)
  have wins : (World.listsElastic ports).survey.verdict ⟨some "first", "1.2.3.4"⟩ =
      some (.ok ⟨some "first", "1.2.3.4"⟩) := by
    simp only [Failover.Survey.verdict, well]
    rfl
  rw [Failover.Survey.finding_cons, looked]
  simp only [List.findSome?_cons, wins]
  rfl

private theorem leads_listsElastic {ports : Ports} (known : ports.desired.isUnknown = false)
    (served : ports.node.isUnknown = false) (apart : ports.node.shown ≠ ports.desired.shown) :
    Leads (World.listsElastic ports) ⟨"project", "eip", .unhealthy, none, none⟩ [some bearer]
      ⟨"reservation", "1.2.3.4", ["eip"], [⟨"old", none, none⟩]⟩ ⟨some "first", "1.2.3.4", "device"⟩ := by
  have apartUrls : Net.healthUrl "1.2.3.4" ports.node ≠ Net.healthUrl "1.2.3.4" ports.desired := by
    rwa [ne_eq, Net.healthUrl_eq_iff]
  have down : (World.listsElastic ports).survey.health (Net.healthUrl "1.2.3.4" ports.desired) = Http.Script.refused :=
    (World.listsElastic_health ports _).trans (if_neg apartUrls.symm)
  refine ⟨known, rfl, Nat.le_refl 1, ?_, served, _, rfl, finding_listsElastic apartUrls _, rfl⟩
  intro _
  change elasticVerdict _ _ ((World.listsElastic ports).survey.health (Net.healthUrl "1.2.3.4" ports.desired)) = _
  rw [down]
  rfl

/-- The elastic address answers at the port of the nodes and not at the one that is wanted, and wins. -/
theorem not_spares_listsElastic {ports : Ports} (known : ports.desired.isUnknown = false)
    (served : ports.node.isUnknown = false) (apart : ports.node.shown ≠ ports.desired.shown) :
    ¬Spares (World.listsElastic ports) ⟨"project", "eip", .unhealthy, none, none⟩ [some bearer] := by
  intro spares
  have led := leads_listsElastic known served apart
  have steady : (World.listsElastic ports).script.Steady := by
    apply Http.Script.steady_byTarget
    simp
  have comes := run_calm rfl steady ⟨"project", "eip", .unhealthy, none, none⟩ [some bearer]
    (List.nodup_singleton _) rfl
  obtain ⟨-, reassigned, remembers⟩ := comes.leads_there led fun _ other => led.unique other rfl
  exact (spares _ rfl).2 reassigned _ remembers rfl

/-- Whatever they meet, passes spare the elastic address exactly if one of the ports is not known or both are shown
alike. -/
theorem spares_iff {ports : Ports} :
    (∀ world setup nodes, world.ports = ports → Spares world setup nodes) ↔
      ports.desired.isUnknown = true ∨ ports.node.isUnknown = true ∨ ports.node.shown = ports.desired.shown := by
  constructor
  · intro spares
    by_contra apart
    obtain ⟨known, served, apart⟩ := (not_or.mp apart).imp_right not_or.mp
    exact not_spares_listsElastic (by simpa using known) (by simpa using served) apart
      (spares (World.listsElastic ports) _ _ rfl)
  · rintro shown world setup nodes rfl
    exact spares_of_shown shown setup nodes

/-- With a port of its own the elastic address is not told from those of the nodes. -/
theorem elastic_wins : ¬∀ world setup nodes, Spares world setup nodes := by
  intro spares
  exact not_spares_listsElastic rfl rfl (by decide)
    (spares (World.listsElastic ⟨.number 443, .number 6443, true⟩) _ _)

end NodePass

end ElasticEndpoint
