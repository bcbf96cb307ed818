import ElasticEndpoint.Proofs.FailoverSearch
import ElasticEndpoint.NodePass

/-!
The acts of a node pass. A pass that enters the guard either stops at a gate, after at most a look at
the ports, a listing and one check of the elastic address, or goes through it into a failover.
-/

namespace ElasticEndpoint.NodePass

/-- The check of the elastic address comes to whether it is healthy, or to a failure. -/
def elasticVerdict (policy : TransportPolicy) (eipUrl : String) (outcome : Http.Outcome) : Except Failure Bool :=
  match Health.ofOutcome outcome with
  | .error failure => .error failure
  | .ok (.answered status) => .ok (status == 200)
  | .ok (.unreachable error) =>
    if policy = .error then .error (.problem (.probeTransport eipUrl error)) else .ok false

/-- The elastic address is left for a failover when it is answered for with another status than 200, or
when the request fails and that does not count as an error. -/
theorem elasticVerdict_eq_false {policy : TransportPolicy} {eipUrl : String} {outcome : Http.Outcome} :
    elasticVerdict policy eipUrl outcome = .ok false ↔
      (∃ status body, outcome = .answered status body ∧ status ≠ 200) ∨
        ∃ kind text, outcome = .failed kind text ∧ policy = .unhealthy := by
  cases outcome with
  | broken text => simp [elasticVerdict, Health.ofOutcome]
  | answered status body => simp [elasticVerdict, Health.ofOutcome]
  | failed kind text => cases policy <;> simp [elasticVerdict, Health.ofOutcome]

/-- The members of the control plane, in order, up to a blank place. -/
def controlPlaneOf : List (Option Cluster.Node) → Except Failure (List Cluster.Node)
  | [] => .ok []
  | none :: _ => .error (.crash .missingPart)
  | some node :: rest =>
    if node.isControlPlane then (controlPlaneOf rest).map (node :: ·) else controlPlaneOf rest

variable {setup : Setup} {reservation : Reservation} {acts : List Act}

theorem does_refuseMultiple_bind {α : Type} {part : Part} {next : Unit → Job α} {result : Except Failure α} :
    Job.Does (refuseMultiple part reservation >>= next) acts result ↔
      if 1 < reservation.assignments.length then
        acts = [] ∧
          result = .error (.problem (.multipleAssignment reservation.id reservation.assignments.length))
      else Job.Does (next ()) acts result := by
  unfold refuseMultiple
  dsimp only
  by_cases several : 1 < reservation.assignments.length
  · simp only [several, ↓reduceIte, bind_assoc, Job.does_log_bind, Job.does_problem_bind]
  · simp only [several, ↓reduceIte, Job.does_pure_bind]

/-- An unassigned elastic address is not checked; any other is checked once. -/
theorem does_checkElastic {eipUrl : String} {result : Except Failure Bool} :
    Job.Does (checkElastic setup reservation eipUrl) acts result ↔
      if reservation.assignments = [] then acts = [] ∧ result = .ok false
      else ∃ outcome, acts = [.http (Health.request setup.limits.probe eipUrl) outcome] ∧
        result = elasticVerdict setup.policy eipUrl outcome := by
  unfold checkElastic
  by_cases free : reservation.assignments = []
  · simp only [free, List.isEmpty_nil, ↓reduceIte, Job.does_log_bind, Job.does_pure]
  · simp only [free, List.isEmpty_iff, ↓reduceIte, Job.does_log_bind]
    rw [Job.does_single_bind Health.does_probe]
    refine exists_congr fun outcome => ?_
    unfold elasticVerdict
    rcases Health.ofOutcome outcome with failure | (status | error)
    · exact Job.last_act
    · by_cases well : status = 200 <;>
        simp only [Health.isHealthy, well, beq_self_eq_true, beq_eq_false_iff_ne.mpr, ne_eq, not_false_eq_true,
          Bool.false_eq_true, ↓reduceIte, Job.does_log_bind, Job.does_pure, Job.last_act]
    · by_cases strict : setup.policy = .error <;>
        simp only [Health.isHealthy, strict, beq_iff_eq, Bool.false_eq_true, ↓reduceIte, Job.does_log_bind,
          Job.does_problem_bind, Job.does_pure, Job.last_act]

theorem does_controlPlane {nodes : List (Option Cluster.Node)} {result : Except Failure (List Cluster.Node)} :
    Job.Does (controlPlane nodes) acts result ↔ acts = [] ∧ result = controlPlaneOf nodes := by
  induction nodes generalizing acts result with
  | nil => exact Job.does_pure
  | cons node nodes ih =>
    cases node with
    | none => exact Job.does_crash
    | some node =>
      unfold controlPlane controlPlaneOf
      by_cases member : node.isControlPlane = true
      · simp only [member, ↓reduceIte, Job.does_log_bind, Job.does_bind_pure, ih]
        constructor
        · rintro ⟨_, ⟨rfl, rfl⟩, rfl⟩
          exact ⟨rfl, rfl⟩
        · rintro ⟨rfl, rfl⟩
          exact ⟨_, ⟨rfl, rfl⟩, rfl⟩
      · simp only [member, Bool.false_eq_true, ↓reduceIte, ih]

/-- What goes before a failover: the ports, the listing, and the checks of the elastic address. -/
def lead (setup : Setup) (ports : Ports) (reservations : List Reservation) (checks : List Act) : List Act :=
  ⟨.ports, ports⟩ :: .metal (.list setup.project true) (.ok reservations) :: checks

/-- What must hold of the ports, the listing and the checks of the elastic address before a pass goes
into a failover. -/
structure Gate (setup : Setup) (ports : Ports) (reservations : List Reservation) (reservation : Reservation)
    (checks : List Act) : Prop where
  known : ports.desired.isUnknown = false
  tagged : setup.tag.isEmpty = false
  matched : Reservation.firstWith [setup.tag] reservations = some reservation
  single : reservation.assignments.length ≤ 1
  checked : if reservation.assignments = [] then checks = []
    else ∃ outcome,
      checks = [.http (Health.request setup.limits.probe (Net.healthUrl reservation.address ports.desired)) outcome] ∧
        elasticVerdict setup.policy (Net.healthUrl reservation.address ports.desired) outcome = .ok false

/-- How a pass ends that stops before a failover, with all it has done by then. -/
inductive Stopped (setup : Setup) (nodes : List (Option Cluster.Node)) : List Act → Except Failure Outcome → Prop where
  | portless {ports : Ports} (unknown : ports.desired.isUnknown = true) :
      Stopped setup nodes [⟨.ports, ports⟩] (.error (.problem .noDesiredPort))
  | untagged {ports : Ports} (blank : setup.tag.isEmpty = true) :
      Stopped setup nodes [⟨.ports, ports⟩] (.error (.problem .noTag))
  | unlisted {ports : Ports} {failure} :
      Stopped setup nodes [⟨.ports, ports⟩, .metal (.list setup.project true) (.error failure)] (.error failure)
  | unmatched {ports reservations} (absent : Reservation.firstWith [setup.tag] reservations = none) :
      Stopped setup nodes (lead setup ports reservations []) (.ok .noReservation)
  | several {ports reservations reservation}
      (matched : Reservation.firstWith [setup.tag] reservations = some reservation)
      (many : 1 < reservation.assignments.length) :
      Stopped setup nodes (lead setup ports reservations [])
        (.error (.problem (.multipleAssignment reservation.id reservation.assignments.length)))
  | answered {ports reservations reservation outcome}
      (matched : Reservation.firstWith [setup.tag] reservations = some reservation)
      (bound : reservation.assignments ≠ [])
      (verdict : elasticVerdict setup.policy (Net.healthUrl reservation.address ports.desired) outcome ≠ .ok false) :
      Stopped setup nodes
        (lead setup ports reservations
          [.http (Health.request setup.limits.probe (Net.healthUrl reservation.address ports.desired)) outcome])
        ((elasticVerdict setup.policy (Net.healthUrl reservation.address ports.desired) outcome).map fun _ => .healthy)
  | blank {ports reservations reservation checks failure}
      (gate : Gate setup ports reservations reservation checks) (missing : controlPlaneOf nodes = .error failure) :
      Stopped setup nodes (lead setup ports reservations checks) (.error failure)

/-- What a pass does once it has found the reservation. -/
private theorem does_matched {ports : Ports} {reservations : List Reservation} {nodes : List (Option Cluster.Node)}
    {rest : List Act} {result : Except Failure Outcome} (known : ports.desired.isUnknown = false)
    (tagged : setup.tag.isEmpty = false) (matched : Reservation.firstWith [setup.tag] reservations = some reservation)
    (done : Job.Does (do
      refuseMultiple .nodes reservation
      if ← checkElastic setup reservation (Net.healthUrl reservation.address ports.desired) then return .healthy
      else
        let candidates ← controlPlane nodes
        startFailover setup (candidates.map some) reservation (Net.healthUrl reservation.address ports.desired))
      rest result) :
    Stopped setup nodes (lead setup ports reservations rest) result ∨
      ∃ checks candidates more, Gate setup ports reservations reservation checks ∧ rest = checks ++ more ∧
        controlPlaneOf nodes = .ok candidates ∧
        Job.Does (startFailover setup (candidates.map some) reservation
          (Net.healthUrl reservation.address ports.desired)) more result := by
  rw [does_refuseMultiple_bind] at done
  by_cases many : 1 < reservation.assignments.length
  · rw [if_pos many] at done
    obtain ⟨rfl, rfl⟩ := done
    exact .inl (.several matched many)
  rw [if_neg many] at done
  have single : reservation.assignments.length ≤ 1 := by omega
  -- Both ways to the failover end alike, so they meet here with the checks made on the way.
  have entered {checks more : List Act} (gate : Gate setup ports reservations reservation checks)
      (picked : Job.Does (do
        let candidates ← controlPlane nodes
        startFailover setup (candidates.map some) reservation (Net.healthUrl reservation.address ports.desired))
        more result) :
      Stopped setup nodes (lead setup ports reservations (checks ++ more)) result ∨
        ∃ former candidates later, Gate setup ports reservations reservation former ∧ checks ++ more = former ++ later ∧
          controlPlaneOf nodes = .ok candidates ∧
          Job.Does (startFailover setup (candidates.map some) reservation
            (Net.healthUrl reservation.address ports.desired)) later result := by
    rw [Job.does_bind] at picked
    simp only [does_controlPlane] at picked
    rcases picked with ⟨failure, rfl, rfl, missing⟩ | ⟨candidates, _, later, rfl, ⟨rfl, members⟩, started⟩
    · rw [List.append_nil]
      exact .inl (.blank gate missing.symm)
    · exact .inr ⟨checks, candidates, later, gate, rfl, members.symm, started⟩
  rw [Job.does_bind] at done
  simp only [does_checkElastic] at done
  by_cases free : reservation.assignments = []
  · simp only [free, ↓reduceIte] at done
    rcases done with ⟨failure, rfl, -, impossible⟩ | ⟨healthy, _, more, rfl, ⟨rfl, same⟩, later⟩
    · cases impossible
    · cases same
      exact entered ⟨known, tagged, matched, single, by simp [free]⟩ (by simpa using later)
  · simp only [free, ↓reduceIte] at done
    rcases done with ⟨failure, rfl, outcome, rfl, failed⟩ | ⟨healthy, _, more, rfl, ⟨outcome, rfl, verdict⟩, later⟩
    · have stopped : Stopped setup nodes (lead setup ports reservations [_])
          ((elasticVerdict setup.policy (Net.healthUrl reservation.address ports.desired) outcome).map _) :=
        .answered matched free (by rw [← failed]; exact nofun)
      rw [← failed] at stopped
      exact .inl stopped
    · cases healthy with
      | false =>
        exact entered ⟨known, tagged, matched, single, by simpa [free] using verdict.symm⟩ (by simpa using later)
      | true =>
        simp only [↓reduceIte, Job.does_pure] at later
        obtain ⟨rfl, rfl⟩ := later
        have stopped : Stopped setup nodes (lead setup ports reservations [_])
            ((elasticVerdict setup.policy (Net.healthUrl reservation.address ports.desired) outcome).map _) :=
          .answered matched free (by rw [← verdict]; exact nofun)
        rw [← verdict] at stopped
        exact .inl stopped

/-- A pass that entered the guard stops, or goes through the gate into a failover. -/
theorem does_inside {nodes : List (Option Cluster.Node)} {result : Except Failure Outcome}
    (done : Job.Does (inside setup nodes) acts result) :
    Stopped setup nodes acts result ∨
      ∃ ports reservations reservation checks candidates rest,
        Gate setup ports reservations reservation checks ∧ acts = lead setup ports reservations checks ++ rest ∧
          controlPlaneOf nodes = .ok candidates ∧
          Job.Does (startFailover setup (candidates.map some) reservation
            (Net.healthUrl reservation.address ports.desired)) rest result := by
  unfold inside at done
  obtain ⟨ports, rest, rfl, looked⟩ := Job.does_ports_bind.mp done
  by_cases unknown : ports.desired.isUnknown = true
  · simp only [unknown, ↓reduceIte] at looked
    obtain ⟨rfl, rfl⟩ := Job.does_problem.mp looked
    exact .inl (.portless unknown)
  simp only [unknown, Bool.false_eq_true, ↓reduceIte] at looked
  by_cases blank : setup.tag.isEmpty = true
  · rw [Job.does_bind] at looked
    simp only [Resolver.does_resolve_untagged blank] at looked
    rcases looked with ⟨failure, rfl, rfl, same⟩ | ⟨_, _, _, rfl, ⟨-, impossible⟩, -⟩
    · cases same
      exact .inl (.untagged blank)
    · cases impossible
  have tagged : setup.tag.isEmpty = false := by simpa using blank
  obtain ⟨reply, rest, rfl, listed⟩ := (Job.does_single_bind (Resolver.does_resolve_tag tagged)).mp looked
  cases reply with
  | error failure =>
    obtain ⟨rfl, rfl⟩ := listed
    exact .inl .unlisted
  | ok reservations =>
    simp only [Except.map] at listed
    cases matched : Reservation.firstWith [setup.tag] reservations with
    | none =>
      simp only [matched] at listed
      obtain ⟨rfl, rfl⟩ := Job.does_pure.mp listed
      exact .inl (.unmatched matched)
    | some reservation =>
      simp only [matched] at listed
      rcases does_matched (by simpa using unknown) tagged matched listed with
        stopped | ⟨checks, candidates, more, gate, rfl, members, started⟩
      · exact .inl stopped
      · exact .inr ⟨ports, reservations, reservation, checks, candidates, more, gate, rfl, members, started⟩

/-- A move is remembered. -/
def remembered : Except Failure Move → List Act
  | .ok move => [⟨.remember move, ()⟩]
  | .error _ => []

/-- A failover that moved the reservation is remembered, and any other ends the pass. -/
theorem does_startFailover {nodes : List (Option Cluster.Node)} {eipUrl : String} {result : Except Failure Outcome} :
    Job.Does (startFailover setup nodes reservation eipUrl) acts result ↔
      ∃ tried moved, Job.Does (Failover.run setup.limits nodes reservation eipUrl) tried moved ∧
        acts = tried ++ remembered moved ∧ result = moved.map fun _ => .reassigned := by
  unfold startFailover
  rw [Job.does_andThen]
  constructor
  · rintro ⟨tried, moved, rest, rfl, failover, later⟩
    refine ⟨tried, moved, failover, ?_⟩
    rcases moved with (problem | crash) | move
    · simp only [Job.does_log_bind, Job.does_problem] at later
      exact ⟨by rw [later.1]; rfl, later.2⟩
    · obtain ⟨rfl, rfl⟩ := Job.does_fail.mp later
      exact ⟨rfl, rfl⟩
    · obtain ⟨⟨⟩, closing, rfl, ended⟩ := (Job.does_ask_bind rfl).mp later
      obtain ⟨rfl, rfl⟩ := Job.does_pure.mp ended
      exact ⟨rfl, rfl⟩
  · rintro ⟨tried, moved, failover, rfl, rfl⟩
    refine ⟨tried, moved, _, rfl, failover, ?_⟩
    rcases moved with (problem | crash) | move
    · simp only [Job.does_log_bind, Job.does_problem]
      exact ⟨rfl, rfl⟩
    · exact Job.does_fail.mpr ⟨rfl, rfl⟩
    · exact (Job.does_ask_bind rfl).mpr ⟨(), [], rfl, Job.does_pure.mpr ⟨rfl, rfl⟩⟩

/-- A pass that is refused by the guard looks at its state; any other leaves the guard at its end. -/
theorem does_run {nodes : List (Option Cluster.Node)} {result : Except Failure Outcome} :
    Job.Does (run setup nodes) acts result ↔
      (∃ state : Guard, acts = [⟨.enterGuard, false⟩, ⟨.guardState, state⟩] ∧ result = .ok .skipped) ∨
        ∃ (within : List Act) (middle : Except Failure Outcome) (left : Bool),
          acts = ⟨.enterGuard, true⟩ :: (within ++ [⟨.leaveGuard, left⟩]) ∧ Job.Does (inside setup nodes) within middle ∧
            result = if left then middle else .error (.crash (.runtime Guard.leftWhileIdle)) := by
  unfold run
  rw [Job.does_log_bind, Job.does_guarded]
  refine or_congr ?_ .rfl
  simp only [Bool.false_eq_true, ↓reduceIte]
  constructor
  · rintro ⟨rest, rfl, refused⟩
    obtain ⟨state, closing, rfl, ended⟩ := (Job.does_ask_bind rfl).mp refused
    simp only [Job.does_log_bind, Job.does_pure] at ended
    obtain ⟨rfl, rfl⟩ := ended
    exact ⟨state, rfl, rfl⟩
  · rintro ⟨state, rfl, rfl⟩
    refine ⟨_, rfl, (Job.does_ask_bind rfl).mpr ⟨state, [], rfl, ?_⟩⟩
    simp only [Job.does_log_bind, Job.does_pure, and_self]

/-- The ways of a pass: it is refused by the guard, it stops inside of it, or it goes through the gate into
a failover. -/
theorem does_run_cases {nodes : List (Option Cluster.Node)} {result : Except Failure Outcome}
    (done : Job.Does (run setup nodes) acts result) :
    (∃ state : Guard, acts = [⟨.enterGuard, false⟩, ⟨.guardState, state⟩] ∧ result = .ok .skipped) ∨
      ∃ (within : List Act) (middle : Except Failure Outcome) (left : Bool),
        acts = ⟨.enterGuard, true⟩ :: (within ++ [⟨.leaveGuard, left⟩]) ∧
          result = (if left then middle else .error (.crash (.runtime Guard.leftWhileIdle))) ∧
          (Stopped setup nodes within middle ∨
            ∃ ports reservations reservation checks candidates tried moved,
              Gate setup ports reservations reservation checks ∧ controlPlaneOf nodes = .ok candidates ∧
                Job.Does (Failover.run setup.limits (candidates.map some) reservation
                  (Net.healthUrl reservation.address ports.desired)) tried moved ∧
                within = lead setup ports reservations checks ++ (tried ++ remembered moved) ∧
                middle = moved.map fun _ => .reassigned) := by
  rcases does_run.mp done with refused | ⟨within, middle, left, rfl, inside, rfl⟩
  · exact .inl refused
  · refine .inr ⟨within, middle, left, rfl, rfl, ?_⟩
    rcases does_inside inside with
      stopped | ⟨ports, reservations, reservation, checks, candidates, rest, gate, rfl, members, started⟩
    · exact .inl stopped
    · obtain ⟨tried, moved, failover, rfl, rfl⟩ := does_startFailover.mp started
      exact .inr ⟨ports, reservations, reservation, checks, candidates, tried, moved, gate, members, failover, rfl, rfl⟩

end ElasticEndpoint.NodePass
