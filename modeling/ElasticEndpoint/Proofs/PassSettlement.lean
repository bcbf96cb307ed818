import ElasticEndpoint.Proofs.Assignments
import ElasticEndpoint.Proofs.SteadySearch

/-!
Where a node pass leaves its reservation. In steady surroundings there is at most one place that a pass can
lead the reservation to. Without a fault it gets there; with one it may also stay as it is, or be left with
no assignment at all.
-/

namespace ElasticEndpoint

open World (answer Calm Alike)

/-- Whether a failure says that a move was left half done. -/
def Failure.isIncomplete : Failure → Bool
  | .problem ⟨.moveIncomplete _, _, _, _⟩ => true
  | _ => false

namespace Reservation

def released (reservation : Reservation) : Reservation := { reservation with assignments := [] }

def placed (reservation : Reservation) (device : String) : Reservation :=
  { reservation with assignments := [Metal.newAssignment device reservation.address] }

end Reservation

namespace Metal.Ledger

variable {ledger : Ledger} {reservation : Reservation} {tags : List String}

private theorem firstWith_unassign {assignment : Assignment} (matched : Reservation.firstWith tags ledger = some reservation)
    (bound : reservation.assignments = [assignment]) :
    Reservation.firstWith tags (ledger.unassign assignment.id) = some reservation.released := by
  rw [unassign_eq_map, firstWith_map (fun _ => without_tags), matched]
  simp [without, bound, Reservation.released]

private theorem firstWith_assign {device : String} (distinct : (ledger.map Reservation.address).Nodup)
    (matched : Reservation.firstWith tags ledger = some reservation) (free : reservation.assignments = []) :
    Reservation.firstWith tags (ledger.assign device reservation.address) = some (reservation.placed device) := by
  rw [assign_eq_map distinct, firstWith_map (fun _ => given_tags), matched]
  simp [given, free, Reservation.placed]

/-- Moving a reservation from its only assignment comes to placing it. -/
theorem firstWith_move {assignment : Assignment} {device : String} (distinct : (ledger.map Reservation.address).Nodup)
    (matched : Reservation.firstWith tags ledger = some reservation) (bound : reservation.assignments = [assignment]) :
    Reservation.firstWith tags ((ledger.unassign assignment.id).assign device reservation.address) =
      some (reservation.placed device) := by
  have kept : ((ledger.unassign assignment.id).map Reservation.address).Nodup := by
    rw [unassign_eq_map, List.map_map]
    exact distinct
  exact @firstWith_assign _ reservation.released _ _ kept (firstWith_unassign matched bound) rfl

end Metal.Ledger

namespace World

/-- A fault of the cloud interface that is due, now or later. -/
def Due (world : World) (failure : Failure) : Prop := ∃ kind, some failure ∈ world.metalFaults kind

private theorem due_of_next {world : World} {kind : Metal.Method} {failure : Failure}
    (next : (world.metalFaults.next kind).1 = some failure) : world.Due failure := by
  refine ⟨kind, ?_⟩
  unfold Schedule.next at next
  split at next
  · cases next
  next due rest queued =>
    obtain rfl : due = some failure := next
    rw [queued]
    exact List.mem_cons_self

/-- No request adds a fault. -/
theorem due_answer {world : World} {request : Request} {failure : Failure}
    (due : (answer request world).2.Due failure) : world.Due failure := by
  obtain ⟨kind, member⟩ := due
  refine ⟨kind, ?_⟩
  cases request with
  | cluster call timeout =>
    obtain ⟨_, _, _, same⟩ := cluster_answered call timeout world
    rwa [same] at member
  | metal call =>
    have rest : some failure ∈ (world.metalFaults.next call.method).2 kind → some failure ∈ world.metalFaults kind := by
      unfold Schedule.next
      split
      · exact id
      next queued =>
        by_cases own : kind = call.method
        · subst own
          rw [queued]
          simp +contextual
        · simp [own]
    apply rest
    simp only [answer, note] at member
    rcases next : world.metalFaults.next call.method with ⟨_ | due, faults⟩ <;> simpa only [next] using member
  | _ => exact member

private theorem due_answers {acts : List Act} {first last : World} (answered : Program.Answers answer first acts last)
    {failure : Failure} (due : last.Due failure) : first.Due failure := by
  induction answered with
  | nil => exact due
  | cons _ ih => exact due_answer (ih due)

private theorem not_calm_of_next {world : World} {kind : Metal.Method} {failure : Failure}
    (next : (world.metalFaults.next kind).1 = some failure) : ¬Calm world := by
  intro calm
  rw [calm.metal] at next
  cases next

end World

/-! Only a move that was left half done is reported as one. -/

private theorem Health.ofOutcome_complete {outcome : Http.Outcome} {failure : Failure}
    (failed : ofOutcome outcome = .error failure) : failure.isIncomplete = false := by
  cases outcome <;> cases failed
  rfl

namespace Instance

private theorem nodeIn_complete {name : Option String} {reply : Except Cluster.CallFailure Cluster.Node} {failure : Failure}
    (failed : nodeIn name reply = .error failure) : failure.isIncomplete = false := by
  rcases reply with (fault | crash) | node <;> cases failed <;> rfl

private theorem addressesIn_complete {name : Option String} {reply : Except Cluster.CallFailure Cluster.Node}
    {failure : Failure} (failed : addressesIn name reply = .error failure) : failure.isIncomplete = false := by
  unfold addressesIn at failed
  cases read : nodeIn name reply with
  | error other =>
    rw [read] at failed
    cases failed
    exact nodeIn_complete read
  | ok node =>
    simp only [read, addressesOf] at failed
    split at failed <;> cases failed
    rfl

private theorem deviceIn_complete {name : Option String} {reply : Except Cluster.CallFailure Cluster.Node} {failure : Failure}
    (failed : deviceIn name reply = .error failure) : failure.isIncomplete = false := by
  unfold deviceIn at failed
  cases read : nodeIn name reply with
  | error other =>
    rw [read] at failed
    cases failed
    exact nodeIn_complete read
  | ok node =>
    simp only [read, deviceNamed] at failed
    split at failed
    · cases failed
      rfl
    next provider _ =>
      unfold deviceOf at failed
      split at failed
      next device named =>
        split at named <;> cases named
        cases failed
      next problem named =>
        split at named <;> cases named
        cases failed
        rfl

end Instance

namespace Failover

variable {limits : Limits} {port : Net.Port} {eipUrl : String} {acts : List Act}

theorem Sweep.lost {node : Option String} {addresses : List NodeAddress} {finding : Finding} {failure : Failure}
    (swept : Sweep limits port eipUrl node addresses acts finding) (lost : finding = .lost failure) :
    failure.isIncomplete = false := by
  induction swept with
  | spent => cases lost
  | skipped _ _ ih => exact ih lost
  | @unhealthy _ _ _ _ _ finding _ _ _ _ ih =>
    cases finding with
    | lost _ => exact ih lost
    | _ => cases lost
  | healthy => cases lost
  | broken _ answer =>
    cases lost
    exact Health.ofOutcome_complete answer

theorem Search.lost {nodes : List (Option Cluster.Node)} {finding : Finding} {failure : Failure}
    (searched : Search limits port eipUrl nodes acts finding) (lost : finding = .lost failure) :
    failure.isIncomplete = false := by
  induction searched with
  | spent => cases lost
  | blank =>
    cases lost
    rfl
  | unread _ answer =>
    cases lost
    exact Instance.addressesIn_complete answer
  | ended _ _ swept _ => exact swept.lost lost
  | @passed _ _ _ _ _ _ _ _ finding _ _ _ _ ih =>
    cases finding with
    | lost _ => exact ih lost
    | _ => cases lost

end Failover

namespace NodePass

private theorem elasticVerdict_complete {policy : TransportPolicy} {eipUrl : String} {outcome : Http.Outcome}
    {failure : Failure} (failed : elasticVerdict policy eipUrl outcome = .error failure) :
    failure.isIncomplete = false := by
  unfold elasticVerdict at failed
  split at failed
  next other broken =>
    cases failed
    exact Health.ofOutcome_complete broken
  · cases failed
  · split at failed <;> cases failed
    rfl

private theorem controlPlaneOf_complete {nodes : List (Option Cluster.Node)} {failure : Failure}
    (failed : controlPlaneOf nodes = .error failure) : failure.isIncomplete = false := by
  induction nodes with
  | nil => cases failed
  | cons node nodes ih =>
    cases node with
    | none =>
      cases failed
      rfl
    | some node =>
      unfold controlPlaneOf at failed
      split at failed
      · cases others : controlPlaneOf nodes with
        | ok rest =>
          rw [others] at failed
          cases failed
        | error other =>
          rw [others] at failed
          cases failed
          exact ih others
      · exact ih failed

end NodePass

/-- A place that a failover leads to: a healthy address, its node, and the device of that. -/
structure Place where
  node : Option String
  address : String
  device : String

def Place.move (place : Place) (reservation : Reservation) : Move :=
  ⟨place.node, place.address, place.device, reservation.assignments.head?.map (·.id)⟩

namespace NodePass

/-- What a pass leaves behind of its reservation, given the places that it may lead to. It is kept as it is,
which without a fault happens only if there is no such place, or it was released and not placed, or it is
placed. -/
inductive Comes (tag : String) (reservation : Reservation) (leads : Place → Prop) (calm : Prop)
    (due : Failure → Prop) (last : World) : Except Failure Outcome → Prop where
  | kept {result} (same : Reservation.firstWith [tag] last.ledger = some reservation)
      (hindered : calm → ∀ place, ¬leads place)
      (raised : ∀ failure, result = .error failure → failure.isIncomplete = true → due failure) :
      Comes tag reservation leads calm due last result
  | released {result} (place : Place) (led : leads place) (stormy : ¬calm)
      (free : Reservation.firstWith [tag] last.ledger = some reservation.released) :
      Comes tag reservation leads calm due last result
  | placed (place : Place) (led : leads place)
      (there : Reservation.firstWith [tag] last.ledger = some (reservation.placed place.device))
      (remembers : last.lastMove = some (place.move reservation)) :
      Comes tag reservation leads calm due last (.ok .reassigned)

theorem Comes.imp {tag : String} {reservation : Reservation} {leads others : Place → Prop} {calm quiet : Prop}
    {due pending : Failure → Prop} {last : World} {result : Except Failure Outcome}
    (comes : Comes tag reservation leads calm due last result) (calmer : quiet → calm)
    (onward : ∀ place, leads place → others place) (back : quiet → ∀ place, others place → leads place)
    (earlier : ∀ failure, due failure → pending failure) :
    Comes tag reservation others quiet pending last result := by
  cases comes with
  | kept same hindered raised =>
    refine .kept same (fun still place led => hindered (calmer still) place (back still place led)) ?_
    intro failure failed incomplete
    exact earlier failure (raised failure failed incomplete)
  | released place led stormy free => exact .released place (onward place led) (fun still => stormy (calmer still)) free
  | placed place led there remembers => exact .placed place (onward place led) there remembers

/-- Where a reservation is left is seen in the reservations and the last move alone. -/
theorem Comes.congr {tag : String} {reservation : Reservation} {leads : Place → Prop} {calm : Prop}
    {due : Failure → Prop} {last other : World} {result : Except Failure Outcome}
    (comes : Comes tag reservation leads calm due last result) (ledger : other.ledger = last.ledger)
    (lastMove : other.lastMove = last.lastMove) : Comes tag reservation leads calm due other result := by
  cases comes with
  | kept same hindered raised => exact .kept (ledger ▸ same) hindered raised
  | released place led stormy free => exact .released place led stormy (ledger ▸ free)
  | placed place led there remembers => exact .placed place led (ledger ▸ there) (lastMove ▸ remembers)

/-- A finding offers the place of its healthy address, if the device of the node is known. -/
def Offers (survey : Failover.Survey) (finding : Failover.Finding) (place : Place) : Prop :=
  finding = .found place.node place.address ∧
    Instance.deviceIn place.node (survey.device place.node) = .ok place.device

theorem Offers.unique {survey : Failover.Survey} {finding : Failover.Finding} {place other : Place}
    (first : Offers survey finding place) (second : Offers survey finding other) : other = place := by
  obtain ⟨rfl, known⟩ := first
  obtain ⟨same, named⟩ := second
  obtain ⟨sameNode, sameAddress⟩ := Failover.Finding.found.inj same
  rw [← sameNode, known] at named
  cases place
  cases other
  cases sameNode
  cases sameAddress
  cases named
  rfl

variable {tag : String} {limits : Failover.Limits} {reservation : Reservation} {world last : World}

/-- Moving a reservation to the device of a place. -/
private theorem move_comes (place : Place) {acts : List Act} {moved : Except Failure (Option String)}
    (move : Job.Does (Failover.move reservation place.device) acts moved)
    (matched : Reservation.firstWith [tag] world.ledger = some reservation)
    (distinct : (world.ledger.map Reservation.address).Nodup) (single : reservation.assignments.length ≤ 1)
    (answered : Program.Answers answer world (acts ++ remembered
      (moved.map fun previous => ⟨place.node, place.address, place.device, previous⟩)) last) :
    Comes tag reservation (· = place) (Calm world) world.Due last (moved.map fun _ => .reassigned) := by
  match bound : reservation.assignments with
  | [] =>
    obtain ⟨given, rfl, rfl⟩ := (Failover.does_move_free bound).mp move
    have shape : (given.map fun _ => none).map
        (fun previous => (⟨place.node, place.address, place.device, previous⟩ : Move)) =
        (given.map fun _ => place.move reservation).mapError id := by
      cases given <;> simp [Place.move, bound, Except.map]
    rw [shape] at answered
    obtain ⟨failure, rfl, next, ledger, -⟩ | ⟨assignment, rfl, ledger, remembers⟩ := assign_affects answered
    · refine .kept (ledger ▸ matched) (fun calm => absurd calm (World.not_calm_of_next next)) ?_
      rintro _ ⟨⟩ -
      exact World.due_of_next next
    · refine .placed place rfl ?_ remembers
      rw [ledger]
      exact Metal.Ledger.firstWith_assign distinct matched bound
  | [assignment] =>
    rcases (Failover.does_move_bound bound).mp move with ⟨failure, rfl, rfl⟩ | ⟨given, rfl, rfl⟩
    · obtain ⟨refused, closed⟩ := Program.answers_cons.mp answered
      obtain rfl := Program.answers_nil.mp closed
      obtain ⟨next, ledger⟩ := World.answer_metal_error (.unassign assignment.id) failure refused
      refine .kept (ledger ▸ matched) (fun calm => absurd calm (World.not_calm_of_next next)) ?_
      rintro _ ⟨⟩ -
      exact World.due_of_next next
    · obtain ⟨removed, rest⟩ := Program.answers_cons.mp answered
      obtain ⟨-, -, emptied⟩ := World.answer_metal_ok (.unassign assignment.id) () removed
      have calmer (calm : Calm world) := World.calm_answer calm (.metal (.unassign assignment.id))
      have shape : ((given.map fun _ => some assignment.id).mapError (Failover.incomplete reservation place.device)).map
          (fun previous => (⟨place.node, place.address, place.device, previous⟩ : Move)) =
          (given.map fun _ => place.move reservation).mapError (Failover.incomplete reservation place.device) := by
        cases given <;> simp [Place.move, bound, Except.map]
      rw [shape] at rest
      obtain ⟨failure, rfl, next, ledger, -⟩ | ⟨given, rfl, ledger, remembers⟩ := assign_affects rest
      · refine .released place rfl (fun calm => World.not_calm_of_next next (calmer calm)) ?_
        rw [ledger, emptied]
        exact Metal.Ledger.firstWith_unassign matched bound
      · refine .placed place rfl ?_ remembers
        rw [ledger, emptied]
        exact Metal.Ledger.firstWith_move distinct matched bound
  | first :: second :: others => simp [bound] at single

private theorem settled_comes {finding : Failover.Finding} {acts : List Act} {moved : Except Failure Move}
    (settled : Failover.Settles limits reservation finding acts moved)
    (complete : ∀ failure, finding = .lost failure → failure.isIncomplete = false)
    (matched : Reservation.firstWith [tag] world.ledger = some reservation)
    (distinct : (world.ledger.map Reservation.address).Nodup) (single : reservation.assignments.length ≤ 1)
    (answered : Program.Answers answer world (acts ++ remembered moved) last) :
    Comes tag reservation (Offers world.survey finding) (Calm world) world.Due last
      (moved.map fun _ => .reassigned) := by
  cases finding with
  | lost failure =>
    obtain ⟨rfl, rfl⟩ := settled
    obtain rfl := Program.answers_nil.mp answered
    refine .kept matched (fun _ _ offered => nomatch offered.1) ?_
    rintro _ ⟨⟩ incomplete
    simp [complete failure rfl] at incomplete
  | nothing checked =>
    obtain ⟨rfl, rfl⟩ := settled
    obtain rfl := Program.answers_nil.mp answered
    refine .kept matched (fun _ _ offered => nomatch offered.1) ?_
    rintro _ ⟨⟩ ⟨⟩
  | found node address =>
    obtain ⟨reply, rest, rfl, later⟩ := Failover.does_handOver.mp settled
    obtain ⟨middle, handed, calmer, -, replied⟩ :=
      World.answers_look (fun calm : Calm world => calm) (fun _ => rfl) answered
    cases named : Instance.deviceIn node reply with
    | error failure =>
      simp only [named] at later
      obtain ⟨rfl, rfl⟩ := later
      have looked : World.Still world last := by
        apply World.still_answers answered
        intro act member
        rw [List.mem_singleton.mp member]
        rfl
      refine .kept (looked.ledger ▸ matched) ?_ ?_
      · rintro calm place ⟨same, known⟩
        cases same
        rcases replied with ⟨stormy, -⟩ | rfl
        · exact stormy calm
        · have refused : Instance.deviceIn place.node (world.survey.device place.node) = .error failure := named
          rw [refused] at known
          cases known
      · rintro _ ⟨⟩ incomplete
        simp [Instance.deviceIn_complete named] at incomplete
    | ok device =>
      simp only [named] at later
      obtain ⟨moved, move, rfl⟩ := later
      obtain ⟨-, told⟩ := Program.answers_cons.mp answered
      have looked : World.Still world (answer (.cluster (.readNode node) limits.api) world).2 :=
        World.still_answer rfl world
      have comes := move_comes ⟨node, address, device⟩ move (looked.ledger ▸ matched)
        (looked.ledger ▸ distinct) single told
      have offered : Offers world.survey (.found node address) ⟨node, address, device⟩ := by
        refine ⟨rfl, ?_⟩
        rcases replied with ⟨-, failure, rfl⟩ | rfl
        · cases failure <;> cases named
        · exact named
      have shape :
          (moved.map fun previous => (⟨node, address, device, previous⟩ : Move)).map (fun _ => Outcome.reassigned) =
          moved.map fun _ => .reassigned := by cases moved <;> rfl
      rw [shape]
      apply comes.imp (fun calm => World.calm_answer calm _)
      · rintro _ rfl
        exact offered
      · intro _ place led
        exact offered.unique led
      · intro failure
        exact World.due_answer

variable {setup : Setup} {nodes : List (Option Cluster.Node)}

/-- What makes a pass that has entered the guard lead its reservation to a place, unless a fault stops it. -/
structure Leads (world : World) (setup : Setup) (nodes : List (Option Cluster.Node)) (reservation : Reservation)
    (place : Place) : Prop where
  known : world.ports.desired.isUnknown = false
  tagged : setup.tag.isEmpty = false
  single : reservation.assignments.length ≤ 1
  down : reservation.assignments ≠ [] →
    elasticVerdict setup.policy (Net.healthUrl reservation.address world.ports.desired)
      (world.survey.health (Net.healthUrl reservation.address world.ports.desired)) = .ok false
  served : world.ports.node.isUnknown = false
  offered : ∃ candidates, controlPlaneOf nodes = .ok candidates ∧
    Offers world.survey (world.survey.finding setup.limits
      (Net.healthUrl reservation.address world.ports.desired) (candidates.map some)) place

/-- What a pass met when it listed the reservations, and where that left it. -/
private theorem lead_answered {ports : Ports} {reservations : List Reservation} {rest : List Act}
    (steady : world.script.Steady)
    (answered : Program.Answers answer world (lead setup ports reservations rest) last) :
    ports = world.ports ∧ reservations = world.ledger ∧ ∃ middle, Program.Answers answer middle rest last ∧
      Alike world middle ∧ middle.ledger = world.ledger ∧ (Calm world → Calm middle) ∧
      ∀ failure, middle.Due failure → world.Due failure := by
  obtain ⟨seen, told⟩ := Program.answers_cons.mp answered
  obtain ⟨listed, later⟩ := Program.answers_cons.mp told
  obtain ⟨-, same, kept⟩ := World.answer_metal_ok (.list setup.project true) reservations listed
  refine ⟨seen, same, _, later, ?_, kept, fun calm => World.calm_answer calm _, fun failure => World.due_answer⟩
  exact World.alike_answer (show (Request.metal (.list setup.project true)).isMild = true from rfl) steady

/-- A pass that stops before its failover reports a move as half done only if a fault says so. -/
theorem Stopped.raises {acts : List Act} {result : Except Failure Outcome} (stopped : Stopped setup nodes acts result)
    (answered : Program.Answers answer world acts last) {failure : Failure} (failed : result = .error failure)
    (incomplete : failure.isIncomplete = true) : world.Due failure := by
  cases stopped with
  | portless | untagged | several =>
    cases failed
    cases incomplete
  | unlisted =>
    cases failed
    obtain ⟨-, told⟩ := Program.answers_cons.mp answered
    obtain ⟨listed, -⟩ := Program.answers_cons.mp told
    exact World.due_of_next (World.answer_metal_error (.list setup.project true) _ listed).1
  | unmatched => cases failed
  | @answered ports _ reservation outcome _ _ _ =>
    cases judged : elasticVerdict setup.policy (Net.healthUrl reservation.address ports.desired) outcome with
    | ok healthy =>
      rw [judged] at failed
      cases failed
    | error other =>
      rw [judged] at failed
      cases failed
      simp [elasticVerdict_complete judged] at incomplete
  | blank _ missing =>
    cases failed
    simp [controlPlaneOf_complete missing] at incomplete

private theorem stopped_comes {acts : List Act} {result : Except Failure Outcome}
    (stopped : Stopped setup nodes acts result) (steady : world.script.Steady)
    (matched : Reservation.firstWith [setup.tag] world.ledger = some reservation)
    (answered : Program.Answers answer world acts last) :
    Comes setup.tag reservation (Leads world setup nodes reservation) (Calm world) world.Due last result := by
  have still := World.still_answers answered stopped.quiet.1
  refine .kept (still.ledger ▸ matched) ?_ fun failure => stopped.raises answered
  intro calm place led
  cases stopped with
  | portless unknown =>
    obtain ⟨seen, -⟩ := Program.answers_cons.mp answered
    have known := led.known
    rw [show world.ports = _ from seen.symm, unknown] at known
    cases known
  | untagged blank =>
    rw [led.tagged] at blank
    cases blank
  | unlisted =>
    obtain ⟨-, told⟩ := Program.answers_cons.mp answered
    obtain ⟨listed, -⟩ := Program.answers_cons.mp told
    obtain ⟨next, -⟩ := World.answer_metal_error (.list setup.project true) _ listed
    exact World.not_calm_of_next next calm
  | unmatched absent =>
    obtain ⟨-, rfl, -⟩ := lead_answered steady answered
    rw [matched] at absent
    cases absent
  | several found many =>
    obtain ⟨-, rfl, -⟩ := lead_answered steady answered
    rw [matched] at found
    cases found
    exact absurd led.single (by omega)
  | answered found bound verdict =>
    obtain ⟨rfl, rfl, middle, later, alike, -⟩ := lead_answered steady answered
    rw [matched] at found
    cases found
    obtain ⟨rfl, -⟩ := Failover.check_answered alike.survey (alike.script ▸ steady) later
    exact verdict (led.down bound)
  | blank gate missing =>
    obtain ⟨candidates, members, -⟩ := led.offered
    rw [missing] at members
    cases members

/-- What a failover leaves behind, once its pass has gone through the gate. -/
private theorem failover_comes {eipUrl : String} {tried : List Act} {moved : Except Failure Move}
    (failover : Job.Does (Failover.run limits nodes reservation eipUrl) tried moved) (steady : world.script.Steady)
    (matched : Reservation.firstWith [tag] world.ledger = some reservation)
    (distinct : (world.ledger.map Reservation.address).Nodup) (single : reservation.assignments.length ≤ 1)
    (answered : Program.Answers answer world (tried ++ remembered moved) last) :
    Comes tag reservation (fun place => world.ports.node.isUnknown = false ∧
        Offers world.survey (world.survey.finding limits eipUrl nodes) place)
      (Calm world) world.Due last (moved.map fun _ => .reassigned) := by
  obtain ⟨ports, rest, rfl, later⟩ := Failover.does_run failover
  obtain ⟨seen, told⟩ := Program.answers_cons.mp answered
  obtain rfl : ports = world.ports := seen
  change Program.Answers answer world (rest ++ remembered moved) last at told
  split at later
  next unknown =>
    obtain ⟨rfl, rfl⟩ := later
    obtain rfl := Program.answers_nil.mp told
    refine .kept matched ?_ ?_
    · rintro _ place ⟨served, _⟩
      rw [unknown] at served
      cases served
    · rintro _ ⟨⟩ ⟨⟩
  next served =>
    rw [if_neg (by omega)] at later
    obtain ⟨sought, finding, closing, rfl, searched, settled⟩ := later
    rw [List.append_assoc] at told
    obtain ⟨middle, looked, closed⟩ := Program.answers_append.mp told
    have still : World.Still world middle := by
      refine World.still_answers looked fun act member => ?_
      rcases searched.lookups act member with ⟨_, _, rfl⟩ | ⟨_, _, _, rfl⟩ <;> rfl
    have alike : Alike world middle := by
      refine World.alike_answers looked (fun act member => ?_) steady
      rcases searched.lookups act member with ⟨_, _, rfl⟩ | ⟨_, _, _, rfl⟩ <;> rfl
    have comes := settled_comes settled (fun _ => searched.lost) (still.ledger ▸ matched)
      (still.ledger ▸ distinct) single closed
    have finds :
        finding = world.survey.finding limits eipUrl nodes ∨ ¬Calm world ∧ ∃ failure, finding = .lost failure :=
      Failover.Search.finds
        (show Failover.Search limits world.survey.ports.node eipUrl nodes sought finding from searched)
        rfl steady looked
    rw [alike.survey] at comes
    apply comes.imp (World.calm_answers looked)
    · intro place offered
      refine ⟨by simpa using served, ?_⟩
      rcases finds with rfl | ⟨-, failure, rfl⟩
      · exact offered
      · cases offered.1
    · rintro calm place ⟨_, offered⟩
      rcases finds with rfl | ⟨stormy, -⟩
      · exact offered
      · exact absurd calm stormy
    · intro failure
      exact World.due_answers looked

private theorem inside_comes {within : List Act} {middle : Except Failure Outcome}
    (done : Job.Does (inside setup nodes) within middle) (answered : Program.Answers answer world within last)
    (steady : world.script.Steady) (matched : Reservation.firstWith [setup.tag] world.ledger = some reservation)
    (distinct : (world.ledger.map Reservation.address).Nodup) :
    Comes setup.tag reservation (Leads world setup nodes reservation) (Calm world) world.Due last middle := by
  rcases does_inside done with
    stopped | ⟨ports, reservations, other, checks, candidates, rest, gate, rfl, members, started⟩
  · exact stopped_comes stopped steady matched answered
  obtain ⟨tried, moved, failover, rfl, rfl⟩ := does_startFailover.mp started
  obtain ⟨rfl, rfl, state, told, alike, listed, calmer, earlier⟩ := lead_answered steady answered
  have found := gate.matched
  rw [matched] at found
  cases found
  obtain ⟨entry, checking, trying⟩ := Program.answers_append.mp told
  have still : World.Still state entry :=
    World.still_answers checking fun act member => gate.quiet act (by simp [lead, member])
  -- An elastic address that is held was found down by its check; one that is not held was not checked.
  have met : Alike state entry ∧ (reservation.assignments ≠ [] →
      elasticVerdict setup.policy (Net.healthUrl reservation.address world.ports.desired)
        (world.survey.health (Net.healthUrl reservation.address world.ports.desired)) = .ok false) := by
    have checked := gate.checked
    split at checked
    next free =>
      subst checked
      obtain rfl := Program.answers_nil.mp checking
      exact ⟨.refl _, fun bound => absurd free bound⟩
    next bound =>
      obtain ⟨outcome, rfl, verdict⟩ := checked
      have steadyThere : state.script.Steady := alike.script ▸ steady
      obtain ⟨rfl, -⟩ := Failover.check_answered alike.survey steadyThere checking
      refine ⟨World.alike_answers checking (fun act member => ?_) steadyThere, fun _ => verdict⟩
      rw [List.mem_singleton.mp member]
      rfl
  have alike := alike.trans met.1
  have ledger : entry.ledger = world.ledger := still.ledger.trans listed
  have comes :=
    failover_comes failover (alike.script ▸ steady) (ledger ▸ matched) (ledger ▸ distinct) gate.single trying
  rw [alike.survey, alike.ports] at comes
  apply comes.imp (fun calm => World.calm_answers checking (calmer calm))
  · rintro place ⟨served, offered⟩
    exact ⟨gate.known, gate.tagged, gate.single, met.2, served, candidates, members, offered⟩
  · intro _ place led
    obtain ⟨others, picked, offered⟩ := led.offered
    rw [members] at picked
    cases picked
    exact ⟨led.served, offered⟩
  · intro failure due
    exact earlier failure (World.due_answers checking due)

/-- A pass that finds the guard busy does nothing. -/
theorem run_busy {world : World} (busy : world.guard = .busy) (setup : Setup)
    (nodes : List (Option Cluster.Node)) :
    (world.run (run setup nodes)).1 = .ok .skipped ∧ (world.run (run setup nodes)).2.ledger = world.ledger ∧
      (world.run (run setup nodes)).2.guard = .busy := by
  obtain ⟨last, answered, same⟩ := world.run_answers (run setup nodes)
  have done := world.does_acts (run setup nodes)
  generalize world.acts (run setup nodes) = acts at answered done
  rw [same.still.ledger, same.still.guard]
  rcases does_run.mp done with ⟨state, rfl, refused⟩ | ⟨within, middle, left, rfl, -, -⟩
  · obtain ⟨-, rest⟩ := Program.answers_cons.mp answered
    obtain ⟨-, closed⟩ := Program.answers_cons.mp rest
    obtain rfl := Program.answers_nil.mp closed
    refine ⟨refused, rfl, ?_⟩
    simp [World.answer, Guard.tryEnter, busy]
  · obtain ⟨entered, -⟩ := Program.answers_cons.mp answered
    simp [World.answer, Guard.tryEnter, busy] at entered

/-- What a pass that finds the guard idle leaves behind, of its surroundings and of its reservation. -/
theorem run_comes {world : World} (idle : world.guard = .idle) (steady : world.script.Steady) (setup : Setup)
    (nodes : List (Option Cluster.Node)) (distinct : (world.ledger.map Reservation.address).Nodup) :
    Alike world (world.run (run setup nodes)).2 ∧ ∀ reservation,
      Reservation.firstWith [setup.tag] world.ledger = some reservation →
        Comes setup.tag reservation (Leads world setup nodes reservation) (Calm world) world.Due
          (world.run (run setup nodes)).2 (world.run (run setup nodes)).1 := by
  obtain ⟨last, answered, same⟩ := world.run_answers (run setup nodes)
  have done := world.does_acts (run setup nodes)
  generalize world.acts (run setup nodes) = acts at answered done
  rcases does_run.mp done with ⟨state, rfl, -⟩ | ⟨within, middle, left, rfl, inside, ended⟩
  · obtain ⟨entered, -⟩ := Program.answers_cons.mp answered
    simp [World.answer, Guard.tryEnter, idle] at entered
  have work : ∀ act ∈ within, act.request.isNodeWork = true := Job.uses_acts (work_inside setup nodes) inside
  obtain ⟨rfl, stop, told, rfl⟩ :=
    World.answers_guarded (fun act member => Request.unguarded_of_work (work act member)) answered
  rw [ended]
  constructor
  · have alike := World.alike_answers told (fun act member => Request.isMild_of_work (work act member)) steady
    have there := same.alike
    exact ⟨there.ports.symm.trans alike.ports, there.guard.symm.trans idle.symm, there.cluster.symm.trans alike.cluster,
      there.script.symm.trans alike.script⟩
  · intro reservation matched
    have comes := inside_comes inside told steady matched distinct
    have busy : Comes setup.tag reservation (Leads world setup nodes reservation) (Calm world) world.Due stop middle := by
      apply comes.imp (fun calm => ⟨calm.cluster, calm.metal⟩)
      · rintro place ⟨known, tagged, single, down, served, offered⟩
        exact ⟨known, tagged, single, down, served, offered⟩
      · rintro - place ⟨known, tagged, single, down, served, offered⟩
        exact ⟨known, tagged, single, down, served, offered⟩
      · exact fun failure due => due
    exact busy.congr same.still.ledger same.still.lastMove

end NodePass

end ElasticEndpoint
