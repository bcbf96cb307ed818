import ElasticEndpoint.Proofs.FailoverScan
import ElasticEndpoint.Proofs.Quiet

/-!
Searches in steady surroundings. Where the cluster stays as it is and every check has a fixed outcome, each
search that is not lost to a fault comes to one and the same finding.
-/

namespace ElasticEndpoint

namespace Http.Script

/-- What a request is answered with does not depend on what was asked before. -/
def Steady (script : Script) : Prop := ∀ request, (script.serve request).2 = script

theorem steady_byTarget {queues : List (String × List Outcome)} (single : ∀ queue ∈ queues, queue.2.length ≤ 1) :
    (byTarget queues).Steady := by
  intro request
  unfold serve
  cases found : queues.lookup (request.method.name ++ " " ++ request.url) with
  | none => simp only [found]
  | some queue =>
    have short : queue.length ≤ 1 := by
      obtain ⟨first, rest, rfl, -⟩ := List.lookup_eq_some_iff.mp found
      exact single _ (List.mem_append_right _ List.mem_cons_self)
    match queue with
    | [] => simp only [found]
    | [outcome] => simp only [found]
    | _ :: _ :: _ => simp at short

private theorem serve_health (script : Script) (timeout : Option Duration) (url : String) :
    script.serve (Health.request timeout url) = script.serve (Health.request none url) := by
  cases script with
  | inOrder outcomes => cases outcomes <;> rfl
  | byTarget queues => rfl

end Http.Script

namespace World

/-- What a failover is told here as long as no fault is due. -/
def survey (world : World) : Failover.Survey where
  ports := world.ports
  addresses name := (Cluster.Store.perform (.readNode name) world.cluster).1
  device name := (Cluster.Store.perform (.readNode name) world.cluster).1
  health url := (world.script.serve (Health.request none url)).1
  unassign _ := .ok ()
  assign device address := .ok (Metal.newAssignment device address)

end World

/-- Whether a request leaves alone the ports, the guard and the cluster. -/
def Request.isMild : Request → Bool
  | .observePort _ | .enterGuard | .leaveGuard => false
  | .cluster (.readNode _) _ => true
  | .cluster _ _ => false
  | _ => true

theorem Request.isMild_of_work {request : Request} (work : request.isNodeWork = true) : request.isMild = true := by
  cases request with
  | cluster call timeout =>
    cases call with
    | readNode => rfl
    | _ => cases work
  | observePort | enterGuard | leaveGuard => cases work
  | _ => rfl

namespace World

/-- What mild requests leave as it is where checks are steady. -/
structure Alike (first last : World) : Prop where
  ports : last.ports = first.ports
  guard : last.guard = first.guard
  cluster : last.cluster = first.cluster
  script : last.script = first.script

theorem Alike.refl (world : World) : Alike world world := ⟨rfl, rfl, rfl, rfl⟩

theorem Alike.trans {first middle last : World} (before : Alike first middle) (after : Alike middle last) :
    Alike first last where
  ports := after.ports.trans before.ports
  guard := after.guard.trans before.guard
  cluster := after.cluster.trans before.cluster
  script := after.script.trans before.script

theorem Same.alike {first last : World} (same : Same last first) : Alike last first := by
  rw [same.eq]
  exact ⟨rfl, rfl, rfl, rfl⟩

theorem Alike.survey {first last : World} (alike : Alike first last) : last.survey = first.survey := by
  unfold World.survey
  rw [alike.ports, alike.cluster, alike.script]

theorem alike_answer {request : Request} {world : World} (mild : request.isMild = true)
    (steady : world.script.Steady) : Alike world (answer request world).2 := by
  have ports : (answer request world).2.ports = world.ports := by
    apply answer_ports
    rintro port rfl
    cases mild
  have guard : (answer request world).2.guard = world.guard := by
    apply answer_guard <;>
    · rintro rfl
      cases mild
  cases request with
  | cluster call timeout =>
    refine ⟨ports, guard, ?_, ?_⟩
    · cases call with
      | readNode name =>
        simp only [answer, note]
        rcases world.clusterFaults.next (Cluster.Call.readNode name).method with ⟨_ | failure, faults⟩ <;> rfl
      | _ => cases mild
    · obtain ⟨_, _, _, same⟩ := cluster_answered call timeout world
      rw [same]
  | metal call =>
    refine ⟨ports, guard, answer_cluster (by simp) world, ?_⟩
    obtain ⟨_, _, _, same⟩ := metal_answered call world
    rw [same]
  | http request => exact ⟨ports, guard, rfl, steady request⟩
  | observePort | enterGuard | leaveGuard => cases mild
  | _ => exact ⟨rfl, rfl, rfl, rfl⟩

theorem alike_answers {acts : List Act} {first last : World} (answered : Program.Answers answer first acts last)
    (mild : ∀ act ∈ acts, act.request.isMild = true) (steady : first.script.Steady) : Alike first last := by
  apply answered.keeps (fun act member _ alike => ?_) (.refl first)
  have held : (World.script _).Steady := alike.script ▸ steady
  exact alike.trans (alike_answer (mild act member) held)

end World

namespace Failover

open World (answer Calm Alike)

/-- The finding of a search is made at its first node, or after it. -/
theorem Survey.finding_cons (survey : Survey) (limits : Limits) (eipUrl : String) (node : Option Cluster.Node)
    (nodes : List (Option Cluster.Node)) :
    survey.finding limits eipUrl (node :: nodes) =
      match survey.lookup eipUrl node with
      | .error failure => .lost failure
      | .ok targets =>
        match targets.findSome? survey.verdict with
        | some ending => conclude (some ending) targets.length
        | none => (survey.finding limits eipUrl nodes).after targets.length := by
  have endings (targets : List Target) :
      (targets.map (survey.checkStop limits)).findSome? Stop.ending = targets.findSome? survey.verdict := by
    rw [List.findSome?_map]
    rfl
  unfold Survey.finding Survey.route
  cases looked : survey.lookup eipUrl node with
  | error failure => simp [Survey.stops, Survey.lookStop, looked, conclude]
  | ok targets =>
    simp only [Survey.stops, Survey.lookStop, Survey.candidates, looked, List.flatMap_cons, List.cons_append,
      List.findSome?_cons, List.findSome?_append, endings, List.length_append]
    cases targets.findSome? survey.verdict with
    | none => rw [Option.none_or, conclude_after]
    | some ending => rcases ending with failure | target <;> rfl

variable {limits : Limits} {eipUrl : String} {survey : Survey} {world last : World}

theorem check_answered {port : Net.Port} {address : String} {outcome : Http.Outcome} {rest : List Act}
    (told : world.survey = survey) (steady : world.script.Steady)
    (answered : Program.Answers answer world (check limits port address outcome :: rest) last) :
    outcome = survey.health (Net.healthUrl address port) ∧
      ∃ middle, Program.Answers answer middle rest last ∧ middle.survey = survey ∧ middle.script.Steady := by
  obtain ⟨same, later⟩ := Program.answers_cons.mp answered
  have alike := World.alike_answer (show (Request.http (Health.request limits.probe
    (Net.healthUrl address port))).isMild = true from rfl) steady
  refine ⟨?_, _, later, alike.survey.trans told, alike.script.symm ▸ steady⟩
  rw [same, ← told]
  exact congrArg Prod.fst (Http.Script.serve_health ..)

theorem Sweep.finds {node : Option String} {addresses : List NodeAddress} {acts : List Act} {finding : Finding}
    (swept : Sweep limits survey.ports.node eipUrl node addresses acts finding) (told : world.survey = survey)
    (steady : world.script.Steady) (answered : Program.Answers answer world acts last) :
    finding = conclude ((survey.targets eipUrl node addresses).findSome? survey.verdict)
      (survey.targets eipUrl node addresses).length := by
  unfold Survey.targets
  induction swept generalizing world with
  | spent => rfl
  | skipped passed _ ih =>
    rw [List.filter_cons_of_neg (by simp [passed])]
    exact ih told steady answered
  | @unhealthy address addresses outcome health acts finding candidate settled sick _ ih =>
    obtain ⟨rfl, middle, later, toldLater, steadyLater⟩ := check_answered told steady answered
    have goesOn : survey.verdict ⟨node, address.address⟩ = none := by simp [Survey.verdict, settled, sick]
    rw [ih toldLater steadyLater later, List.filter_cons_of_pos candidate]
    simp [goesOn, conclude_after, Nat.add_comm]
  | @healthy address addresses outcome health candidate settled well =>
    obtain ⟨rfl, -⟩ := check_answered told steady answered
    have wins : survey.verdict ⟨node, address.address⟩ = some (.ok ⟨node, address.address⟩) := by
      simp [Survey.verdict, settled, well]
    rw [List.filter_cons_of_pos candidate]
    simp [wins, conclude]
  | @broken address addresses outcome failure candidate settled =>
    obtain ⟨rfl, -⟩ := check_answered told steady answered
    have breaks : survey.verdict ⟨node, address.address⟩ = some (.error failure) := by simp [Survey.verdict, settled]
    rw [List.filter_cons_of_pos candidate]
    simp [breaks, conclude]

private theorem look_answered {name : Option String} {reply : Except Cluster.CallFailure Cluster.Node}
    {rest : List Act} (told : world.survey = survey) (steady : world.script.Steady)
    (answered : Program.Answers answer world (look limits name reply :: rest) last) :
    (reply = survey.addresses name ∨ ¬Calm world ∧ ∃ failure, reply = .error failure) ∧
      ∃ middle, Program.Answers answer middle rest last ∧ middle.survey = survey ∧ middle.script.Steady ∧
        (Calm world → Calm middle) := by
  have alike := World.alike_answer (show (Request.cluster (.readNode name) limits.api).isMild = true from rfl) steady
  have later := (Program.answers_cons.mp answered).2
  refine ⟨?_, _, later, alike.survey.trans told, alike.script.symm ▸ steady, fun calm => World.calm_answer calm _⟩
  obtain ⟨-, -, -, -, ⟨stormy, failed⟩ | same⟩ :=
    World.answers_look (fun calm : Calm world => calm) (fun _ => rfl) answered
  · exact .inr ⟨stormy, failed⟩
  · rw [← told]
    exact .inl same

/-- A search comes to what the survey tells, or a fault made it fail. -/
theorem Search.finds {nodes : List (Option Cluster.Node)} {acts : List Act} {finding : Finding}
    (searched : Search limits survey.ports.node eipUrl nodes acts finding) (told : world.survey = survey)
    (steady : world.script.Steady) (answered : Program.Answers answer world acts last) :
    finding = survey.finding limits eipUrl nodes ∨ ¬Calm world ∧ ∃ failure, finding = .lost failure := by
  induction searched generalizing world with
  | spent => exact .inl rfl
  | blank missing =>
    rw [Survey.finding_cons]
    simp [Survey.lookup, missing]
  | @unread node nodes metadata reply failure present settled =>
    obtain ⟨rfl | ⟨stormy, -⟩, -⟩ := look_answered told steady answered
    · rw [Survey.finding_cons]
      simp [Survey.lookup, present, settled, Except.map]
    · exact .inr ⟨stormy, failure, rfl⟩
  | @ended node nodes metadata reply addresses acts finding present settled swept decisive =>
    obtain ⟨rfl | ⟨-, failure, rfl⟩, middle, later, toldLater, steadyLater, -⟩ := look_answered told steady answered
    · have finds := swept.finds toldLater steadyLater later
      have looked : survey.lookup eipUrl node = .ok (survey.targets eipUrl metadata.name addresses) := by
        simp [Survey.lookup, present, settled, Except.map]
      left
      rw [Survey.finding_cons, looked]
      cases ended : (survey.targets eipUrl metadata.name addresses).findSome? survey.verdict with
      | none =>
        rw [ended] at finds
        exact absurd finds (decisive _)
      | some ending =>
        rw [ended] at finds
        simpa only [ended] using finds
    · cases failure <;> cases settled
  | @passed node nodes metadata reply addresses acts count more finding present settled swept _ ih =>
    obtain ⟨rfl | ⟨-, failure, rfl⟩, middle, later, toldLater, steadyLater, calmLater⟩ :=
      look_answered told steady answered
    · obtain ⟨state, sweeping, searching⟩ := Program.answers_append.mp later
      have finds := swept.finds toldLater steadyLater sweeping
      have alike : Alike middle state := by
        refine World.alike_answers sweeping (fun act member => ?_) steadyLater
        obtain ⟨_, -, _, -, rfl⟩ := swept.checks act member
        rfl
      have looked : survey.lookup eipUrl node = .ok (survey.targets eipUrl metadata.name addresses) := by
        simp [Survey.lookup, present, settled, Except.map]
      rw [Survey.finding_cons, looked]
      cases ended : (survey.targets eipUrl metadata.name addresses).findSome? survey.verdict with
      | some ending =>
        rw [ended] at finds
        rcases ending with failure | target <;> cases finds
      | none =>
        rw [ended] at finds
        cases finds
        simp only [ended]
        rcases ih (alike.survey.trans toldLater) (alike.script.symm ▸ steadyLater) searching with
          rfl | ⟨stormy, failure, rfl⟩
        · exact .inl rfl
        · exact .inr ⟨fun calm => stormy (World.calm_answers sweeping (calmLater calm)), failure, rfl⟩
    · cases failure <;> cases settled

end Failover

end ElasticEndpoint
