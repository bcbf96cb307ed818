import ElasticEndpoint.Proofs.NodePassActs
import ElasticEndpoint.Proofs.Quiet

/-!
The effect of a node pass on the reservations. A pass leaves them as they are, makes one assignment, or
removes the only assignment of its reservation and makes another; only when making the other fails is
the reservation left without any.
-/

namespace ElasticEndpoint

open World (answer Still)

private theorem Schedule.next_congr {κ φ : Type} [DecidableEq κ] {first second : Schedule κ φ} {kind : κ}
    (same : first kind = second kind) : (first.next kind).1 = (second.next kind).1 := by
  unfold next
  rw [same]
  cases second kind <;> rfl

namespace NodePass

/-- What a pass can do to reservations and to the memory of the last move, and its result with that. The
failure that is due is the one that the next assignment fails with. -/
inductive Effect (tag : String) (ledger : Metal.Ledger) (last : Option Move) (due : Option Failure) :
    Except Failure Outcome → Metal.Ledger → Option Move → Prop where
  | none {result} (unmoved : result ≠ .ok .reassigned) : Effect tag ledger last due result ledger last
  | given {reservation} (move : Move) (matched : Reservation.firstWith [tag] ledger = some reservation)
      (free : reservation.assignments = []) :
      Effect tag ledger last due (.ok .reassigned) (ledger.assign move.instanceId reservation.address) (some move)
  | moved {reservation assignment} (move : Move) (matched : Reservation.firstWith [tag] ledger = some reservation)
      (bound : reservation.assignments = [assignment]) :
      Effect tag ledger last due (.ok .reassigned)
        ((ledger.unassign assignment.id).assign move.instanceId reservation.address) (some move)
  | lost {reservation assignment device failure} (matched : Reservation.firstWith [tag] ledger = some reservation)
      (bound : reservation.assignments = [assignment]) (failed : due = some failure) :
      Effect tag ledger last due (.error (Failover.incomplete reservation device failure))
        (ledger.unassign assignment.id) last

abbrev Affects (tag : String) (before : World) (result : Except Failure Outcome) (after : World) : Prop :=
  Effect tag before.ledger before.lastMove (before.metalFaults.next .assign).1 result after.ledger after.lastMove

theorem Affects.of_still {tag : String} {first second third : World} {result : Except Failure Outcome}
    (affects : Affects tag second result third) (before : Still first second) : Affects tag first result third := by
  unfold Affects at affects ⊢
  rw [← before.ledger, ← before.lastMove, ← Schedule.next_congr before.assigns]
  exact affects

theorem Affects.then_still {tag : String} {first second third : World} {result : Except Failure Outcome}
    (affects : Affects tag first result second) (after : Still second third) : Affects tag first result third := by
  unfold Affects
  rw [after.ledger, after.lastMove]
  exact affects

/-- What leaves the reservations and the last move as they are has no effect. -/
theorem Affects.of_same {tag : String} {before after : World} {result : Except Failure Outcome}
    (ledger : after.ledger = before.ledger) (lastMove : after.lastMove = before.lastMove)
    (unmoved : result ≠ .ok .reassigned) : Affects tag before result after := by
  unfold Affects
  rw [ledger, lastMove]
  exact .none unmoved

variable {tag : String} {limits : Failover.Limits} {reservation : Reservation} {world last : World}

/-- An assignment that is answered is made and remembered, and one that fails takes the failure that was
due and has no effect. -/
theorem assign_affects {device : String} {move : Move} {given : Except Failure Assignment}
    {wrap : Failure → Failure}
    (answered : Program.Answers answer world (Failover.assigned reservation device given ::
      remembered ((given.map fun _ => move).mapError wrap)) last) :
    (∃ failure, given = .error failure ∧ (world.metalFaults.next .assign).1 = some failure ∧
        last.ledger = world.ledger ∧ last.lastMove = world.lastMove) ∨
      ∃ assignment, given = .ok assignment ∧ last.ledger = world.ledger.assign device reservation.address ∧
        last.lastMove = some move := by
  obtain ⟨replied, rest⟩ := Program.answers_cons.mp answered
  cases given with
  | error failure =>
    obtain ⟨due, kept⟩ := World.answer_metal_error (.assign device reservation.address) failure replied
    obtain rfl := Program.answers_nil.mp rest
    exact .inl ⟨failure, rfl, due, kept, World.answer_lastMove (by simp) world⟩
  | ok assignment =>
    obtain ⟨-, -, ledger⟩ := World.answer_metal_ok (.assign device reservation.address) assignment replied
    obtain ⟨-, closed⟩ := Program.answers_cons.mp rest
    obtain rfl := Program.answers_nil.mp closed
    exact .inr ⟨assignment, rfl, ledger, rfl⟩

/-- Moving a reservation has the effect of one assignment, or of none. -/
private theorem move_affects {node : Option String} {address device : String} {acts : List Act}
    {moved : Except Failure (Option String)} (move : Job.Does (Failover.move reservation device) acts moved)
    (matched : Reservation.firstWith [tag] world.ledger = some reservation)
    (single : reservation.assignments.length ≤ 1)
    (answered : Program.Answers answer world (acts ++ remembered
      (moved.map fun previous => ⟨node, address, device, previous⟩)) last) :
    Affects tag world (moved.map fun _ => .reassigned) last := by
  match bound : reservation.assignments with
  | [] =>
    obtain ⟨given, rfl, rfl⟩ := (Failover.does_move_free bound).mp move
    have shape : (given.map fun _ => none).map (fun previous => (⟨node, address, device, previous⟩ : Move)) =
        (given.map fun _ => ⟨node, address, device, none⟩).mapError id := by cases given <;> rfl
    rw [shape] at answered
    obtain ⟨failure, rfl, -, ledger, lastMove⟩ | ⟨assignment, rfl, ledger, lastMove⟩ := assign_affects answered
    · exact .of_same ledger lastMove nofun
    · unfold Affects
      rw [ledger, lastMove]
      exact .given ⟨node, address, device, none⟩ matched bound
  | [assignment] =>
    rcases (Failover.does_move_bound bound).mp move with ⟨failure, rfl, rfl⟩ | ⟨given, rfl, rfl⟩
    · obtain ⟨refused, closed⟩ := Program.answers_cons.mp answered
      obtain rfl := Program.answers_nil.mp closed
      exact .of_same (World.answer_metal_error (.unassign assignment.id) failure refused).2
        (World.answer_lastMove (by simp) world) nofun
    · obtain ⟨removed, rest⟩ := Program.answers_cons.mp answered
      obtain ⟨-, -, emptied⟩ := World.answer_metal_ok (.unassign assignment.id) () removed
      have remembers : (answer (.metal (.unassign assignment.id)) world).2.lastMove = world.lastMove :=
        World.answer_lastMove (by simp) world
      have dues : ((answer (.metal (.unassign assignment.id)) world).2.metalFaults.next .assign).1 =
          (world.metalFaults.next .assign).1 :=
        Schedule.next_congr (World.answer_metalFaults (by rintro _ ⟨⟩; simp [Metal.Call.method]) world)
      have shape : ((given.map fun _ => some assignment.id).mapError (Failover.incomplete reservation device)).map
          (fun previous => (⟨node, address, device, previous⟩ : Move)) =
          (given.map fun _ => ⟨node, address, device, some assignment.id⟩).mapError
            (Failover.incomplete reservation device) := by cases given <;> rfl
      rw [shape] at rest
      obtain ⟨failure, rfl, due, ledger, lastMove⟩ | ⟨given, rfl, ledger, lastMove⟩ := assign_affects rest
      · unfold Affects
        rw [ledger, lastMove, emptied, remembers]
        exact .lost matched bound (dues.symm.trans due)
      · unfold Affects
        rw [ledger, lastMove, emptied]
        exact .moved ⟨node, address, device, some assignment.id⟩ matched bound
  | first :: second :: others => simp [bound] at single

private theorem settled_affects {finding : Failover.Finding} {acts : List Act} {moved : Except Failure Move}
    (settled : Failover.Settles limits reservation finding acts moved)
    (matched : Reservation.firstWith [tag] world.ledger = some reservation)
    (single : reservation.assignments.length ≤ 1)
    (answered : Program.Answers answer world (acts ++ remembered moved) last) :
    Affects tag world (moved.map fun _ => .reassigned) last := by
  cases finding with
  | lost failure =>
    obtain ⟨rfl, rfl⟩ := settled
    obtain rfl := Program.answers_nil.mp answered
    exact .none nofun
  | nothing checked =>
    obtain ⟨rfl, rfl⟩ := settled
    obtain rfl := Program.answers_nil.mp answered
    exact .none nofun
  | found node address =>
    obtain ⟨reply, rest, rfl, later⟩ := Failover.does_handOver.mp settled
    obtain ⟨-, handed⟩ := Program.answers_cons.mp answered
    have looked : Still world (answer (.cluster (.readNode node) limits.api) world).2 := World.still_answer rfl world
    rw [← looked.ledger] at matched
    apply Affects.of_still _ looked
    cases named : Instance.deviceIn node reply with
    | error failure =>
      simp only [named] at later
      obtain ⟨rfl, rfl⟩ := later
      obtain rfl := Program.answers_nil.mp handed
      exact .none nofun
    | ok device =>
      simp only [named] at later
      obtain ⟨moved, move, rfl⟩ := later
      have affects := move_affects move matched single handed
      have shape :
          (moved.map fun previous => (⟨node, address, device, previous⟩ : Move)).map (fun _ => Outcome.reassigned) =
          moved.map fun _ => .reassigned := by cases moved <;> rfl
      rw [shape]
      exact affects

private theorem failover_affects {nodes : List (Option Cluster.Node)} {eipUrl : String} {acts : List Act}
    {moved : Except Failure Move} (done : Job.Does (Failover.run limits nodes reservation eipUrl) acts moved)
    (matched : Reservation.firstWith [tag] world.ledger = some reservation)
    (single : reservation.assignments.length ≤ 1)
    (answered : Program.Answers answer world (acts ++ remembered moved) last) :
    Affects tag world (moved.map fun _ => .reassigned) last := by
  obtain ⟨ports, rest, rfl, later⟩ := Failover.does_run done
  obtain ⟨-, told⟩ := Program.answers_cons.mp answered
  change Program.Answers answer world (rest ++ remembered moved) last at told
  split at later
  · obtain ⟨rfl, rfl⟩ := later
    obtain rfl := Program.answers_nil.mp told
    exact .none nofun
  rw [if_neg (by omega)] at later
  obtain ⟨sought, finding, closing, rfl, searched, settled⟩ := later
  rw [List.append_assoc] at told
  obtain ⟨middle, looked, closed⟩ := Program.answers_append.mp told
  have still : Still world middle := by
    refine World.still_answers looked fun act member => ?_
    rcases searched.lookups act member with ⟨_, _, rfl⟩ | ⟨_, _, _, rfl⟩ <;> rfl
  rw [← still.ledger] at matched
  exact (settled_affects settled matched single closed).of_still still

variable {setup : Setup} {nodes : List (Option Cluster.Node)}

theorem Gate.quiet {ports : Ports} {reservations : List Reservation} {checks : List Act}
    (gate : Gate setup ports reservations reservation checks) :
    ∀ act ∈ lead setup ports reservations checks, act.request.isQuiet = true := by
  have checked := gate.checked
  split at checked
  · subst checked
    simp [lead, Request.isQuiet]
  · obtain ⟨outcome, rfl, -⟩ := checked
    simp [lead, Request.isQuiet]

/-- A pass that stops asks for nothing but quiet requests, and has moved nothing. -/
theorem Stopped.quiet {acts : List Act} {result : Except Failure Outcome} (stopped : Stopped setup nodes acts result) :
    (∀ act ∈ acts, act.request.isQuiet = true) ∧ result ≠ .ok .reassigned := by
  cases stopped with
  | portless | untagged | unlisted | unmatched | several => exact ⟨by simp [lead, Request.isQuiet], nofun⟩
  | answered matched bound verdict =>
    refine ⟨by simp [lead, Request.isQuiet], ?_⟩
    cases elasticVerdict setup.policy _ _ <;> exact nofun
  | blank gate missing => exact ⟨gate.quiet, nofun⟩

/-- The reservations that a pass listed are those of the surroundings. -/
private theorem lead_listed {ports : Ports} {reservations : List Reservation} {checks rest : List Act}
    (answered : Program.Answers answer world (lead setup ports reservations checks ++ rest) last) :
    reservations = world.ledger := by
  obtain ⟨-, told⟩ := Program.answers_cons.mp answered
  obtain ⟨listed, -⟩ := Program.answers_cons.mp told
  exact (World.answer_metal_ok (.list setup.project true) reservations listed).2.1

private theorem inside_affects {within : List Act} {middle : Except Failure Outcome}
    (done : Job.Does (inside setup nodes) within middle) (answered : Program.Answers answer world within last) :
    Affects setup.tag world middle last := by
  rcases does_inside done with
    stopped | ⟨ports, reservations, reservation, checks, candidates, rest, gate, rfl, members, started⟩
  · obtain ⟨quiet, unmoved⟩ := stopped.quiet
    have still := World.still_answers answered quiet
    exact .of_same still.ledger still.lastMove unmoved
  · obtain ⟨tried, moved, failover, rfl, rfl⟩ := does_startFailover.mp started
    obtain rfl := lead_listed answered
    obtain ⟨state, before, after⟩ := Program.answers_append.mp answered
    have still := World.still_answers before gate.quiet
    exact (failover_affects failover (still.ledger ▸ gate.matched) gate.single after).of_still still

/-- The effect of a node pass, in every state and under every schedule of faults. -/
theorem affects_run (world : World) (setup : Setup) (nodes : List (Option Cluster.Node)) :
    Affects setup.tag world (world.run (run setup nodes)).1 (world.run (run setup nodes)).2 := by
  obtain ⟨last, answered, same⟩ := world.run_answers (run setup nodes)
  have done := world.does_acts (run setup nodes)
  generalize world.acts (run setup nodes) = acts at answered done
  unfold Affects
  rw [same.still.ledger, same.still.lastMove]
  rcases does_run.mp done with ⟨state, rfl, refused⟩ | ⟨within, middle, left, rfl, inside, ended⟩
  · rw [refused]
    obtain ⟨-, rest⟩ := Program.answers_cons.mp answered
    obtain ⟨-, closed⟩ := Program.answers_cons.mp rest
    obtain rfl := Program.answers_nil.mp closed
    exact .none nofun
  · have work : ∀ act ∈ within, act.request.isNodeWork = true := Job.uses_acts (work_inside setup nodes) inside
    obtain ⟨rfl, stop, told, rfl⟩ :=
      World.answers_guarded (fun act member => Request.unguarded_of_work (work act member)) answered
    rw [ended, if_pos rfl]
    have affects := inside_affects inside told
    exact affects

end NodePass

end ElasticEndpoint
