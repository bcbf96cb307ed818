import ElasticEndpoint.Proofs.NodePassActs
import ElasticEndpoint.Proofs.WorldActs

/-!
The gate of a node pass. A pass touches nodes or assignments only after everything that speaks against
it was looked at in that same pass. Whatever it does then depends on the control plane alone.
-/

namespace ElasticEndpoint.NodePass

/-- The places of a list without the nodes outside the control plane. Blank places hold no node and
stay. -/
def members (nodes : List (Option Cluster.Node)) : List (Option Cluster.Node) :=
  nodes.filter (Option.all Cluster.Node.isControlPlane)

/-- The names of the control plane, in the order of the list. -/
def memberNames (nodes : List (Option Cluster.Node)) : List (Option String) :=
  ((nodes.filterMap id).filter Cluster.Node.isControlPlane).map fun node => Cluster.nameOf node.metadata

private theorem controlPlane_members (nodes : List (Option Cluster.Node)) :
    controlPlane (members nodes) = controlPlane nodes := by
  induction nodes with
  | nil => rfl
  | cons node nodes ih =>
    cases node with
    | none => rfl
    | some node =>
      by_cases member : node.isControlPlane = true
      · have kept : members (some node :: nodes) = some node :: members nodes := by
          simp [members, member]
        rw [kept, controlPlane, controlPlane, if_pos member, if_pos member, ih]
      · have dropped : members (some node :: nodes) = members nodes := by simp [members, member]
        rw [dropped, controlPlane, if_neg member, ih]

/-- A pass does not depend on the nodes outside the control plane. -/
theorem run_members (setup : Setup) (nodes : List (Option Cluster.Node)) :
    run setup (members nodes) = run setup nodes := by
  unfold run inside
  simp only [controlPlane_members]

private theorem controlPlaneOf_ok {nodes : List (Option Cluster.Node)} {candidates : List Cluster.Node}
    (picked : controlPlaneOf nodes = .ok candidates) :
    candidates = (nodes.filterMap id).filter Cluster.Node.isControlPlane := by
  induction nodes generalizing candidates with
  | nil => cases picked; rfl
  | cons node nodes ih =>
    cases node with
    | none => cases picked
    | some node =>
      unfold controlPlaneOf at picked
      by_cases member : node.isControlPlane = true
      · rw [if_pos member] at picked
        cases others : controlPlaneOf nodes with
        | error failure => rw [others] at picked; cases picked
        | ok rest =>
          rw [others] at picked
          cases picked
          simp [member, ih others]
      · rw [if_neg member] at picked
        simp [member, ih picked]

variable {setup : Setup} {nodes : List (Option Cluster.Node)} {acts : List Act}

/-- In memory, a pass that lists reservations found the guard idle, sees the ports and the reservations
as they are, and has changed nothing by then but the guard and the schedule of listings. -/
theorem opened {world last : World} {ports : Ports} {reservations : List Reservation} {rest : List Act}
    (answered : Program.Answers World.answer world (⟨.enterGuard, true⟩ :: lead setup ports reservations rest) last) :
    world.guard = .idle ∧ ports = world.ports ∧ (world.metalFaults.next .list).1 = none ∧ reservations = world.ledger ∧
      ∃ middle : World, Program.Answers World.answer middle rest last ∧ middle.guard = .busy ∧
        middle.ledger = world.ledger ∧ middle.lastMove = world.lastMove ∧
        ∀ kind, kind ≠ .list → middle.metalFaults kind = world.metalFaults kind := by
  obtain ⟨entered, answered⟩ := Program.answers_cons.mp answered
  obtain ⟨seen, answered⟩ := Program.answers_cons.mp answered
  obtain ⟨listed, answered⟩ := Program.answers_cons.mp answered
  obtain ⟨due, same, kept⟩ := World.answer_metal_ok (.list setup.project true) reservations listed
  have idle : world.guard = .idle := by
    cases state : world.guard with
    | idle => rfl
    | busy => simp [World.answer, Guard.tryEnter, state] at entered
  refine ⟨idle, seen, due, same, _, answered, ?_, kept, ?_, ?_⟩
  · rw [World.answer_guard (by simp) (by simp)]
    simp [World.answer, Guard.tryEnter, idle]
  · rw [World.answer_lastMove (by simp)]
    rfl
  · intro kind other
    rw [World.answer_metalFaults (by rintro call ⟨⟩; exact other.symm), World.answer_metalFaults (by simp),
      World.answer_metalFaults (by simp)]

/-- The checks before a failover touch nothing. -/
theorem Gate.untouched {ports : Ports} {reservations : List Reservation} {reservation : Reservation}
    {checks : List Act} (gate : Gate setup ports reservations reservation checks) :
    Act.reads checks = [] ∧ Act.changes checks = [] := by
  have checked := gate.checked
  split at checked
  · subst checked
    exact ⟨rfl, rfl⟩
  · obtain ⟨outcome, rfl, -⟩ := checked
    exact ⟨rfl, rfl⟩

/-- A pass that stops touches nothing. -/
theorem Stopped.untouched {result : Except Failure Outcome} (stopped : Stopped setup nodes acts result) :
    Act.reads acts = [] ∧ Act.changes acts = [] := by
  cases stopped with
  | blank gate _ => exact gate.untouched
  | _ => exact ⟨rfl, rfl⟩

/-- What follows a failover touches nothing and sends no request. -/
theorem closing_untouched (moved : Except Failure Move) (left : Bool) :
    Act.reads (remembered moved ++ [⟨.leaveGuard, left⟩]) = [] ∧
      Act.changes (remembered moved ++ [⟨.leaveGuard, left⟩]) = [] ∧
      Act.urls (remembered moved ++ [⟨.leaveGuard, left⟩]) = [] := by
  cases moved <;> exact ⟨rfl, rfl, rfl⟩

/-- What must have held before a pass touches anything: the state and the listing that it met, and the
only check of the elastic address that it made. -/
structure Cleared (world : World) (setup : Setup) (reservation : Reservation) (acts : List Act) : Prop where
  idle : world.guard = .idle
  known : world.ports.desired.isUnknown = false
  tagged : setup.tag ≠ ""
  listed : (world.metalFaults.next .list).1 = none
  matched : Reservation.firstWith [setup.tag] world.ledger = some reservation
  single : reservation.assignments.length ≤ 1
  checked : ∃ checks rest,
    acts = ⟨.enterGuard, true⟩ :: (lead setup world.ports world.ledger checks ++ rest) ∧
      Net.healthUrl reservation.address world.ports.desired ∉ Act.urls rest ∧
      if reservation.assignments = [] then checks = []
      else ∃ outcome,
        checks = [.http (Health.request setup.limits.probe
          (Net.healthUrl reservation.address world.ports.desired)) outcome] ∧
          ((∃ status body, outcome = .answered status body ∧ status ≠ 200) ∨
            ∃ kind text, outcome = .failed kind text ∧ setup.policy = .unhealthy)

/-- How a pass touches nodes and assignments. It reads a node or asks for a change only once it is cleared
to; it reads members of the control plane in order, and then perhaps the last of them again; and it asks
for the changes of one move of the reservation, to a device that a node it read stands on. -/
structure Touches (world : World) (setup : Setup) (nodes : List (Option Cluster.Node)) (acts : List Act) : Prop where
  cleared : Act.reads acts ≠ [] ∨ Act.changes acts ≠ [] → ∃ reservation, Cleared world setup reservation acts
  reads : ∃ count again, Act.reads acts = (memberNames nodes).take count ++ again ∧
    (again = [] ∨ ∃ name, again = [name] ∧ ((memberNames nodes).take count).getLast? = some name)
  changes : ∀ reservation, Reservation.firstWith [setup.tag] world.ledger = some reservation →
    Failover.Moves reservation (Act.changes acts)
  device : ∀ device address, .assign device address ∈ Act.changes acts →
    ∃ node reply, Failover.look setup.limits node reply ∈ acts ∧ Instance.deviceIn node reply = .ok device

/-- A pass that touches nothing needs no clearance. -/
theorem Touches.nothing {world : World} (unread : Act.reads acts = []) (unchanged : Act.changes acts = []) :
    Touches world setup nodes acts where
  cleared touched := absurd touched (by simp [unread, unchanged])
  reads := ⟨0, [], by simp [unread], .inl rfl⟩
  changes _ _ := by
    rw [unchanged]
    exact .none
  device := by simp [unchanged]

/-- A pass that goes through the gate is cleared to, and touches what its failover touches. -/
theorem Touches.through {world : World} {reservation : Reservation} {checks tried closing : List Act}
    {candidates : List Cluster.Node} {moved : Except Failure Move}
    (idle : world.guard = .idle) (due : (world.metalFaults.next .list).1 = none)
    (gate : Gate setup world.ports world.ledger reservation checks) (members : controlPlaneOf nodes = .ok candidates)
    (failover : Job.Does (Failover.run setup.limits (candidates.map some) reservation
      (Net.healthUrl reservation.address world.ports.desired)) tried moved)
    (unread : Act.reads closing = []) (unchanged : Act.changes closing = []) (unasked : Act.urls closing = []) :
    Touches world setup nodes
      (⟨.enterGuard, true⟩ :: lead setup world.ports world.ledger (checks ++ (tried ++ closing))) := by
  obtain ⟨unchecked, moves, ⟨count, again, reads, last⟩, seen⟩ := Failover.touches_of_run failover gate.single
  have names : (memberNames nodes).take count =
      ((candidates.map some).take count).map (fun node => Cluster.nameOf (node.bind (·.metadata))) := by
    rw [memberNames, ← controlPlaneOf_ok members, ← List.map_take, ← List.map_take, List.map_map]
    rfl
  have allReads : Act.reads (⟨.enterGuard, true⟩ :: lead setup world.ports world.ledger (checks ++ (tried ++ closing))) =
      Act.reads tried := by
    change Act.reads (checks ++ (tried ++ closing)) = _
    rw [Act.reads_append, Act.reads_append, gate.untouched.1, unread, List.nil_append, List.append_nil]
  have allChanges :
      Act.changes (⟨.enterGuard, true⟩ :: lead setup world.ports world.ledger (checks ++ (tried ++ closing))) =
        Act.changes tried := by
    change Act.changes (checks ++ (tried ++ closing)) = _
    rw [Act.changes_append, Act.changes_append, gate.untouched.2, unchanged, List.nil_append, List.append_nil]
  constructor
  · intro _
    refine ⟨reservation, idle, gate.known, ?_, due, gate.matched, gate.single, checks, tried ++ closing, rfl, ?_, ?_⟩
    · simpa using gate.tagged
    · simpa [unasked] using unchecked
    · simpa only [elasticVerdict_eq_false] using gate.checked
  · exact ⟨count, again, by rw [allReads, reads, names], by rw [names]; exact last⟩
  · intro other matched
    rw [gate.matched] at matched
    cases matched
    rw [allChanges]
    exact moves
  · intro device address asked
    rw [allChanges] at asked
    obtain ⟨node, reply, member, named⟩ := seen device address asked
    exact ⟨node, reply, by simp [lead, member], named⟩

/-- In every state and under every schedule of faults, a node pass touches nodes and assignments only as it
is cleared to, and does all it does as if the nodes outside the control plane were not there. -/
theorem touches_only_when_cleared (world : World) (setup : Setup) (nodes : List (Option Cluster.Node)) :
    Touches world setup nodes (world.acts (run setup nodes)) ∧ run setup nodes = run setup (members nodes) := by
  refine ⟨?_, (run_members setup nodes).symm⟩
  obtain ⟨last, answered, -⟩ := world.run_answers (run setup nodes)
  have done := world.does_acts (run setup nodes)
  generalize world.acts (run setup nodes) = acts at answered done ⊢
  rcases does_run_cases done with ⟨state, rfl, -⟩ | ⟨within, middle, left, rfl, -, stopped |
    ⟨ports, reservations, reservation, checks, candidates, tried, moved, gate, members, failover, rfl, -⟩⟩
  · exact .nothing rfl rfl
  · obtain ⟨unread, unchanged⟩ := stopped.untouched
    refine .nothing ?_ ?_
    · change Act.reads (within ++ _) = []
      rw [Act.reads_append, unread]
      rfl
    · change Act.changes (within ++ _) = []
      rw [Act.changes_append, unchanged]
      rfl
  · have shape : (⟨.enterGuard, true⟩ : Act) :: (lead setup ports reservations checks ++ (tried ++ remembered moved) ++
        [⟨.leaveGuard, left⟩]) = ⟨.enterGuard, true⟩ :: lead setup ports reservations
          (checks ++ (tried ++ (remembered moved ++ [⟨.leaveGuard, left⟩]))) := by simp [lead]
    rw [shape] at answered ⊢
    obtain ⟨idle, rfl, due, rfl, -⟩ := opened answered
    obtain ⟨unread, unchanged, unasked⟩ := closing_untouched moved left
    exact .through idle due gate members failover unread unchanged unasked

end ElasticEndpoint.NodePass
