import ElasticEndpoint.Proofs.NodePassGate
import ElasticEndpoint.Proofs.PassSettlement

/-!
Convergence of node passes. Whatever a pass died of, the next one that meets no fault leaves the reservation
where a single pass without faults would have left it.
-/

namespace ElasticEndpoint.NodePass

open World (answer Calm Alike)

variable {setup : Setup} {nodes : List (Option Cluster.Node)} {reservation : Reservation} {world other : World}

theorem Leads.alike {place : Place} (alike : Alike world other) :
    Leads other setup nodes reservation place ↔ Leads world setup nodes reservation place := by
  constructor
  all_goals
    rintro ⟨known, tagged, single, down, served, offered⟩
    refine ⟨?_, tagged, single, ?_, ?_, ?_⟩
    · simpa only [alike.ports] using known
    · simpa only [alike.ports, alike.survey] using down
    · simpa only [alike.ports] using served
    · simpa only [alike.ports, alike.survey] using offered

/-- There is one place that passes lead to, whatever the assignments of the reservation are. -/
theorem Leads.unique {place elsewhere : Place} {later : Reservation} (first : Leads world setup nodes reservation place)
    (second : Leads world setup nodes later elsewhere) (same : later.address = reservation.address) :
    elsewhere = place := by
  obtain ⟨candidates, members, offered⟩ := first.offered
  obtain ⟨others, picked, found⟩ := second.offered
  rw [members] at picked
  cases picked
  rw [same] at found
  exact offered.unique found

/-- A pass that would place a reservation places it as well once it is released. -/
theorem Leads.released {place : Place} (led : Leads world setup nodes reservation place) :
    Leads world setup nodes reservation.released place where
  known := led.known
  tagged := led.tagged
  single := Nat.zero_le 1
  down bound := absurd rfl bound
  served := led.served
  offered := led.offered

section

variable {tag : String} {due pending : Failure → Prop} {leads : Place → Prop} {last after : World}
  {result outcome : Except Failure Outcome} {place : Place}

theorem Comes.leads_there (comes : Comes tag reservation leads True due last result) (led : leads place)
    (unique : ∀ elsewhere, leads elsewhere → elsewhere = place) :
    Reservation.firstWith [tag] last.ledger = some (reservation.placed place.device) ∧
      result = .ok .reassigned ∧ last.lastMove = some (place.move reservation) := by
  cases comes with
  | kept _ hindered _ => exact absurd led (hindered trivial place)
  | released _ _ stormy _ => exact absurd trivial stormy
  | placed elsewhere ledThere there remembers =>
    obtain rfl := unique elsewhere ledThere
    exact ⟨there, rfl, remembers⟩

private theorem Comes.kept_or_placed (comes : Comes tag reservation leads True due last result) :
    (Reservation.firstWith [tag] last.ledger = some reservation ∧ ∀ place, ¬leads place) ∨
      ∃ place, leads place ∧ Reservation.firstWith [tag] last.ledger = some (reservation.placed place.device) := by
  cases comes with
  | kept same hindered _ => exact .inl ⟨same, hindered trivial⟩
  | released _ _ stormy _ => exact absurd trivial stormy
  | placed place led there _ => exact .inr ⟨place, led, there⟩

end

theorem run_calm (idle : world.guard = .idle) (steady : world.script.Steady) (setup : Setup)
    (nodes : List (Option Cluster.Node)) (distinct : (world.ledger.map Reservation.address).Nodup)
    (matched : Reservation.firstWith [setup.tag] world.ledger = some reservation) :
    Comes setup.tag reservation (Leads world setup nodes reservation) True world.Due
      (world.calmed.run (run setup nodes)).2 (world.calmed.run (run setup nodes)).1 := by
  have comes := (@run_comes world.calmed idle steady setup nodes distinct).2 reservation matched
  have alike : Alike world world.calmed := ⟨rfl, rfl, rfl, rfl⟩
  apply comes.imp (fun _ => World.calm_calmed world)
  · exact fun place led => (Leads.alike alike).mp led
  · exact fun _ place led => (Leads.alike alike).mpr led
  · rintro failure ⟨kind, member⟩
    cases member

theorem Effect.addresses {tag : String} {ledger after : Metal.Ledger} {last lastAfter : Option Move}
    {due : Option Failure} {result : Except Failure Outcome}
    (effect : Effect tag ledger last due result after lastAfter)
    (distinct : (ledger.map Reservation.address).Nodup) :
    after.map Reservation.address = ledger.map Reservation.address := by
  have released (assignmentId : String) :
      (ledger.unassign assignmentId).map Reservation.address = ledger.map Reservation.address := by
    rw [Metal.Ledger.unassign_eq_map, List.map_map]
    rfl
  have given {former : Metal.Ledger} (apart : (former.map Reservation.address).Nodup) (device address : String) :
      (former.assign device address).map Reservation.address = former.map Reservation.address := by
    rw [Metal.Ledger.assign_eq_map apart, List.map_map]
    simp [Function.comp_def]
  cases effect with
  | none => rfl
  | given => exact given distinct _ _
  | @moved _ assignment =>
    rw [given (released assignment.id ▸ distinct), released]
  | lost => exact released _

private theorem run_unmatched (world : World) (setup : Setup) (nodes : List (Option Cluster.Node))
    (absent : Reservation.firstWith [setup.tag] world.ledger = none) :
    (world.run (run setup nodes)).2.ledger = world.ledger ∧ ∀ failure,
      (world.run (run setup nodes)).1 = .error failure → failure.isIncomplete = true → world.Due failure := by
  constructor
  · have affects := affects_run world setup nodes
    unfold Affects at affects
    generalize (world.run (run setup nodes)).1 = result at affects
    generalize (world.run (run setup nodes)).2.ledger = ledger at affects ⊢
    generalize (world.run (run setup nodes)).2.lastMove = lastMove at affects
    cases affects with
    | none => rfl
    | given _ matched | moved _ matched | lost matched =>
      rw [absent] at matched
      cases matched
  · obtain ⟨last, answered, -⟩ := world.run_answers (run setup nodes)
    have done := world.does_acts (run setup nodes)
    intro failure failed incomplete
    rw [failed] at done
    generalize world.acts (run setup nodes) = acts at answered done
    rcases does_run_cases done with ⟨_, -, ⟨⟩⟩ | ⟨within, middle, left, rfl, ended, stopped |
      ⟨ports, reservations, listed, checks, candidates, tried, moved, gate, members, failover, rfl, -⟩⟩
    · obtain ⟨-, told⟩ := Program.answers_cons.mp answered
      obtain ⟨stop, inside, -⟩ := Program.answers_append.mp told
      cases left with
      | true => exact World.due_answer (stopped.raises inside ended.symm incomplete)
      | false =>
        cases ended
        cases incomplete
    · have shape : (⟨.enterGuard, true⟩ : Act) ::
          (lead setup ports reservations checks ++ (tried ++ remembered moved) ++ [⟨.leaveGuard, left⟩]) =
          ⟨.enterGuard, true⟩ :: lead setup ports reservations
            (checks ++ (tried ++ remembered moved) ++ [⟨.leaveGuard, left⟩]) := rfl
      rw [shape] at answered
      obtain ⟨-, -, -, rfl, -⟩ := opened answered
      have matched := gate.matched
      rw [absent] at matched
      cases matched

/-- A pass does not check an elastic address that is not assigned. -/
theorem unchecked_of_free (world : World) (setup : Setup) (nodes : List (Option Cluster.Node))
    (matched : Reservation.firstWith [setup.tag] world.ledger = some reservation)
    (free : reservation.assignments = []) :
    Net.healthUrl reservation.address world.ports.desired ∉ Act.urls (world.acts (run setup nodes)) := by
  obtain ⟨last, answered, -⟩ := world.run_answers (run setup nodes)
  have done := world.does_acts (run setup nodes)
  generalize world.acts (run setup nodes) = acts at answered done ⊢
  rcases does_run_cases done with ⟨state, rfl, -⟩ | ⟨within, middle, left, rfl, -, stopped |
    ⟨ports, reservations, listed, checks, candidates, tried, moved, gate, members, failover, rfl, -⟩⟩
  · simp [Act.urls, Request.url?]
  · have leaving : Act.urls (⟨.enterGuard, true⟩ :: (within ++ [⟨.leaveGuard, left⟩])) = Act.urls within := by
      change Act.urls (within ++ _) = _
      rw [Act.urls_append]
      exact List.append_nil _
    rw [leaving]
    cases stopped with
    | answered found bound verdict =>
      obtain ⟨-, rfl, -, rfl, -⟩ := opened answered
      rw [matched] at found
      cases found
      exact absurd free bound
    | @blank ports reservations _ checks _ gate missing =>
      have shape : (⟨.enterGuard, true⟩ : Act) :: (lead setup ports reservations checks ++ [⟨.leaveGuard, left⟩]) =
          ⟨.enterGuard, true⟩ :: lead setup ports reservations (checks ++ [⟨.leaveGuard, left⟩]) := rfl
      rw [shape] at answered
      obtain ⟨-, rfl, -, rfl, -⟩ := opened answered
      have found := gate.matched
      rw [matched] at found
      cases found
      have unchecked := gate.checked
      rw [if_pos free] at unchecked
      simp [lead, unchecked, Act.urls, Request.url?]
    | _ => simp [lead, Act.urls, Request.url?]
  · have shape : (⟨.enterGuard, true⟩ : Act) :: (lead setup ports reservations checks ++ (tried ++ remembered moved) ++
        [⟨.leaveGuard, left⟩]) = ⟨.enterGuard, true⟩ :: lead setup ports reservations
          (checks ++ (tried ++ (remembered moved ++ [⟨.leaveGuard, left⟩]))) := by simp [lead]
    rw [shape] at answered ⊢
    obtain ⟨-, rfl, -, rfl, -⟩ := opened answered
    have found := gate.matched
    rw [matched] at found
    cases found
    have unchecked := gate.checked
    rw [if_pos free] at unchecked
    subst unchecked
    change _ ∉ Act.urls (tried ++ (remembered moved ++ [⟨.leaveGuard, left⟩]))
    rw [Act.urls_append, (closing_untouched moved left).2.2, List.append_nil]
    exact (Failover.touches_of_run failover gate.single).1

/-- How a pass resumes a move that was left half done: it does not check the elastic address, and places the
reservation where a pass that was not interrupted would have placed it. -/
structure Resumes (world : World) (setup : Setup) (nodes : List (Option Cluster.Node)) (reservation : Reservation)
    (place : Place) : Prop where
  matched : Reservation.firstWith [setup.tag] world.ledger = some reservation
  uninterrupted : (world.calmed.run (run setup nodes)).1 = .ok .reassigned ∧
    (world.calmed.run (run setup nodes)).2.lastMove = some (place.move reservation)
  unchecked : Net.healthUrl reservation.address world.ports.desired ∉
    Act.urls ((world.run (run setup nodes)).2.calmed.acts (run setup nodes))
  resumed : ((world.run (run setup nodes)).2.calmed.run (run setup nodes)).1 = .ok .reassigned ∧
    ((world.run (run setup nodes)).2.calmed.run (run setup nodes)).2.lastMove = some (place.move reservation.released)
  there : Reservation.firstWith [setup.tag] ((world.run (run setup nodes)).2.calmed.run (run setup nodes)).2.ledger =
    some (reservation.placed place.device)

/-- A pass from an idle guard is made good by the next one that meets no fault. -/
private theorem converges_idle (idle : world.guard = .idle) (steady : world.script.Steady) (setup : Setup)
    (nodes : List (Option Cluster.Node)) (distinct : (world.ledger.map Reservation.address).Nodup)
    (matched : Reservation.firstWith [setup.tag] world.ledger = some reservation) :
    Reservation.firstWith [setup.tag] ((world.run (run setup nodes)).2.calmed.run (run setup nodes)).2.ledger =
        Reservation.firstWith [setup.tag] (world.calmed.run (run setup nodes)).2.ledger ∧
      ∀ failure, (world.run (run setup nodes)).1 = .error failure → failure.isIncomplete = true →
        world.Due failure ∨ ∃ place, Resumes world setup nodes reservation place := by
  have once := run_calm idle steady setup nodes distinct matched
  obtain ⟨alike, first⟩ := run_comes idle steady setup nodes distinct
  have apart := (affects_run world setup nodes).addresses distinct
  have again {later : Reservation}
      (found : Reservation.firstWith [setup.tag] (world.run (run setup nodes)).2.ledger = some later) :=
    run_calm (alike.guard.trans idle) (alike.script ▸ steady) setup nodes (apart ▸ distinct) found
  have first := first reservation matched
  generalize ended : (world.run (run setup nodes)).1 = result at first ⊢
  cases first with
  | kept same hindered raised =>
    constructor
    · rcases once.kept_or_placed with ⟨stays, nowhere⟩ | ⟨place, led, there⟩
      · rcases (again same).kept_or_placed with ⟨kept, -⟩ | ⟨place, led, -⟩
        · rw [kept, stays]
        · exact absurd ((Leads.alike alike).mp led) (nowhere place)
      · have ledAgain := (Leads.alike alike).mpr led
        rw [there, ((again same).leads_there ledAgain fun _ other => ledAgain.unique other rfl).1]
    · exact fun failure failed incomplete => .inl (raised failure failed incomplete)
  | released place led _ free =>
    have ledAgain := (Leads.alike alike).mpr led.released
    have resumed := (again free).leads_there ledAgain fun _ other => ledAgain.unique other rfl
    have uninterrupted := once.leads_there led fun _ other => led.unique other rfl
    constructor
    · rw [resumed.1, uninterrupted.1]
      rfl
    · intro _ _ _
      have unchecked := unchecked_of_free (world.run (run setup nodes)).2.calmed setup nodes free rfl
      refine .inr ⟨place, matched, uninterrupted.2, ?_, resumed.2, resumed.1⟩
      rw [← alike.ports]
      exact unchecked
  | placed place led there _ =>
    constructor
    · rw [(once.leads_there led fun _ other => led.unique other rfl).1]
      rcases (again there).kept_or_placed with ⟨kept, -⟩ | ⟨elsewhere, ledThere, moved⟩
      · exact kept
      · rw [moved, led.unique ((Leads.alike alike).mp ledThere) rfl]
        rfl
    · rintro _ ⟨⟩

/-- Whatever a pass died of, after another one that meets no fault the reservation is as a single pass without
faults would have left it. A move that was left half done is resumed. -/
theorem converges (world : World) (setup : Setup) (nodes : List (Option Cluster.Node))
    (distinct : (world.ledger.map Reservation.address).Nodup) (steady : world.script.Steady) :
    Reservation.firstWith [setup.tag] ((world.run (run setup nodes)).2.calmed.run (run setup nodes)).2.ledger =
        Reservation.firstWith [setup.tag] (world.calmed.run (run setup nodes)).2.ledger ∧
      ∀ failure, (world.run (run setup nodes)).1 = .error failure → failure.isIncomplete = true →
        world.Due failure ∨ ∃ reservation place, Resumes world setup nodes reservation place := by
  cases guard : world.guard with
  | busy =>
    obtain ⟨skipped, kept, busy⟩ := run_busy guard setup nodes
    obtain ⟨-, same, -⟩ := @run_busy (world.run (run setup nodes)).2.calmed busy setup nodes
    obtain ⟨-, once, -⟩ := @run_busy world.calmed guard setup nodes
    rw [same, once, skipped]
    refine ⟨congrArg (Reservation.firstWith [setup.tag]) kept, ?_⟩
    rintro _ ⟨⟩
  | idle =>
    cases matched : Reservation.firstWith [setup.tag] world.ledger with
    | none =>
      obtain ⟨kept, raised⟩ := run_unmatched world setup nodes matched
      have same := (run_unmatched (world.run (run setup nodes)).2.calmed setup nodes (kept ▸ matched)).1
      have once := (run_unmatched world.calmed setup nodes matched).1
      rw [same, once]
      refine ⟨congrArg (Reservation.firstWith [setup.tag]) kept, ?_⟩
      exact fun failure failed incomplete => .inl (raised failure failed incomplete)
    | some reservation =>
      obtain ⟨same, resumes⟩ := converges_idle guard steady setup nodes distinct matched
      refine ⟨same, fun failure failed incomplete => ?_⟩
      rcases resumes failure failed incomplete with due | resumed
      · exact .inl due
      · exact .inr ⟨reservation, resumed⟩

theorem converges_aboutToLose :
    (World.aboutToLose.ledger.map Reservation.address).Nodup ∧ World.aboutToLose.script.Steady ∧
      Reservation.firstWith ["eip"] (World.aboutToLose.run
        (run ⟨"project", "eip", .unhealthy, none, none⟩ World.aboutToLose.cluster.nodes)).2.ledger =
          some ⟨"reservation", "1.2.3.4", ["eip"], []⟩ ∧
      Reservation.firstWith ["eip"] ((World.aboutToLose.run
          (run ⟨"project", "eip", .unhealthy, none, none⟩ World.aboutToLose.cluster.nodes)).2.calmed.run
            (run ⟨"project", "eip", .unhealthy, none, none⟩ World.aboutToLose.cluster.nodes)).2.ledger =
        Reservation.firstWith ["eip"] (World.aboutToLose.calmed.run
          (run ⟨"project", "eip", .unhealthy, none, none⟩ World.aboutToLose.cluster.nodes)).2.ledger := by
  have steady : World.aboutToLose.script.Steady := by
    apply Http.Script.steady_byTarget
    simp
  have distinct : (World.aboutToLose.ledger.map Reservation.address).Nodup := by decide
  refine ⟨distinct, steady, by decide +kernel, ?_⟩
  exact (converges World.aboutToLose ⟨"project", "eip", .unhealthy, none, none⟩ _ distinct steady).1

end ElasticEndpoint.NodePass
