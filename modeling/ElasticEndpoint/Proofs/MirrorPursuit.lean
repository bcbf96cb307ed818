import ElasticEndpoint.Proofs.MirrorCourse

/-!
What a service pass pursues while others work on the same mirror. Between any two of its calls the mirror may have
gone to any later phase, and still each pass comes to its end or is beaten to a creation.
-/

namespace ElasticEndpoint.ServicePass

open Cluster (Service Endpoints ServicePort Store conflict)

/-- Where a pass stands: the phase that it knows the mirror has come to, the phase that it brought it to itself,
and all that it did so far. -/
structure Standing where
  seen : Phase
  reached : Phase
  acts : List Act

def Standing.heard (standing : Standing) (act : Act) : Standing := { standing with acts := standing.acts ++ [act] }

/-- A turn takes the mirror to a later phase only, and the pass that does so has reached that phase. -/
structure Phase.Turn (phase after former reached : Phase) : Prop where
  kept : phase ≤ after
  grows : former ≤ reached
  within : reached ≤ after
  earned : after ≠ phase → reached = after

theorem Phase.Turn.stays {phase reached : Phase} (known : reached ≤ phase) : phase.Turn phase reached reached :=
  ⟨le_refl _, le_refl _, known, fun moved => absurd rfl moved⟩

private theorem Phase.Turn.advances {phase level former : Phase} (known : former ≤ level) :
    phase.Turn (phase.upTo level) former level :=
  ⟨le_upTo .., known, least_le_upTo .., fun moved => (upTo_of_ne moved).symm⟩

/-- What a pass ends with that another one was faster than in creating one of the mirrored objects. -/
inductive Beaten (acts : List Act) : Problem → Prop where
  | endpoints {body timeout} (met : Act.cluster (.createEndpoints mirrorSpace body) timeout (.error conflict) ∈ acts) :
      Beaten acts (.cluster "Failed to create mirrored endpoints" "409 Conflict")
  | service {body timeout} (met : Act.cluster (.createService mirrorSpace body) timeout (.error conflict) ∈ acts) :
      Beaten acts (.cluster s!"Failed to create service {mirrorName}" "409 Conflict")

theorem Beaten.heard {standing : Standing} {problem : Problem} (beaten : Beaten standing.acts problem) (act : Act) :
    Beaten (standing.heard act).acts problem := by
  cases beaten with
  | endpoints met => exact .endpoints (List.mem_append_left _ met)
  | service met => exact .service (List.mem_append_left _ met)

/-- A part of a pass brings the mirror to a phase, or is beaten by a pass that went further. -/
def Comes {α : Type} (level : Phase) : Except Failure α → Standing → Prop
  | .ok _, standing => standing.reached = level ∧ level ≤ standing.seen
  | .error failure, standing => standing.reached < standing.seen ∧
    ∃ problem, failure = .problem problem ∧ Beaten standing.acts problem

/-- How a whole pass ends. -/
inductive Ends : Except Failure Outcome → Standing → Prop where
  | mirrored {standing} (done : standing.reached = .shown) : Ends (.ok .mirrored) standing
  | beaten {standing problem} (behind : standing.reached < standing.seen) (met : Beaten standing.acts problem) :
      Ends (.error (.problem problem)) standing

namespace Course

variable {α β : Type} (course : Course) (ledger : Metal.Ledger)

/-- A job that comes to its end as a condition says, whatever phase the mirror is in at each of its calls. Apart
from calls to the cluster it lists the reservations and observes the port of the plan. -/
def Pursues (post : Except Failure α → Standing → Prop) : Standing → Job α → Prop
  | standing, Program.done result => post result standing
  | standing, Program.ask (.log record) next =>
    ∀ reply, Pursues post (standing.heard ⟨.log record, reply⟩) (next reply)
  | standing, Program.ask (.metal (.list project true)) next =>
    Pursues post (standing.heard (.metal (.list project true) (.ok ledger))) (next (.ok ledger))
  | standing, Program.ask (.observePort port) next =>
    port = course.plan.target ∧ ∀ before : Ports, (before.observe port).desired = course.desired →
      Pursues post (standing.heard ⟨.observePort port, before⟩) (next before)
  | standing, Program.ask (.cluster call timeout) next =>
    ∀ phase, standing.seen ≤ phase → ∃ reply after reached, phase.Turn after standing.reached reached ∧
      Store.perform call (course.storeIn phase) = (reply, course.storeIn after) ∧
      Pursues post ⟨after, reached, standing.acts ++ [.cluster call timeout reply]⟩ (next reply)
  | _, Program.ask _ _ => False

variable {course ledger} {post : Except Failure α → Standing → Prop} {other : Except Failure β → Standing → Prop}

theorem Pursues.bind {job : Job α} {next : α → Job β} {standing : Standing}
    (first : course.Pursues ledger post standing job)
    (value : ∀ value standing, post (.ok value) standing → course.Pursues ledger other standing (next value))
    (failure : ∀ failure standing, post (.error failure) standing → other (.error failure) standing) :
    course.Pursues ledger other standing (job >>= next) := by
  induction job generalizing standing with
  | done result =>
    cases result with
    | ok found => exact value found standing first
    | error lost => exact failure lost standing first
  | ask request rest ih =>
    cases request with
    | log record => exact fun reply => ih reply (first reply)
    | observePort port => exact ⟨first.1, fun before desired => ih before (first.2 before desired)⟩
    | metal call =>
      cases call with
      | list project withAssignments =>
        cases withAssignments with
        | true => exact ih _ first
        | false => exact first
      | _ => exact first
    | cluster call timeout =>
      intro phase later
      obtain ⟨reply, after, reached, turn, performed, pursues⟩ := first phase later
      exact ⟨reply, after, reached, turn, performed, ih reply pursues⟩
    | _ => exact first

theorem Pursues.log_bind {part : Part} {severity : Severity} {message : String} {next : Unit → Job α}
    {standing : Standing}
    (rest : course.Pursues ledger post (standing.heard ⟨.log ⟨part, severity, message⟩, ()⟩) (next ())) :
    course.Pursues ledger post standing (Job.log part severity message >>= next) := fun _ => rest

theorem Pursues.logAll_bind {records : List Record} {next : Unit → Job α} {standing : Standing}
    (rest : ∀ acts, course.Pursues ledger post { standing with acts := acts } (next ())) :
    course.Pursues ledger post standing (Job.logAll records >>= next) := by
  induction records generalizing standing with
  | nil => exact rest standing.acts
  | cons record records ih => exact fun _ => ih rest

theorem Pursues.list_bind {project : String} {next : Metal.Ledger → Job α} {standing : Standing}
    (rest : course.Pursues ledger post (standing.heard (.metal (.list project true) (.ok ledger))) (next ledger)) :
    course.Pursues ledger post standing (Job.metal (.list project true) >>= next) := rest

/-- A call to the cluster goes on with the reply that it gets in each phase that the mirror may be in by then. -/
theorem Pursues.cluster_bind {call : Cluster.Call} {timeout : Option Duration}
    {next : Except Cluster.Fault call.Reply → Job α} {standing : Standing}
    (turn : ∀ phase, standing.seen ≤ phase → ∃ (given : Except Cluster.Fault call.Reply) (after reached : Phase),
      phase.Turn after standing.reached reached ∧
        Store.perform call (course.storeIn phase) = (given.mapError .fault, course.storeIn after) ∧
        course.Pursues ledger post
          ⟨after, reached, standing.acts ++ [.cluster call timeout (given.mapError .fault)]⟩ (next given)) :
    course.Pursues ledger post standing (Job.cluster call timeout >>= next) := by
  intro phase later
  obtain ⟨given, after, reached, turned, performed, rest⟩ := turn phase later
  refine ⟨_, after, reached, turned, performed, ?_⟩
  cases given <;> exact rest

private theorem pursues_refuse {note message : String} {fault : Cluster.Fault} {standing : Standing} {level : Phase}
    (behind : standing.reached < standing.seen) (beaten : Beaten standing.acts (.cluster message fault.description)) :
    course.Pursues ledger (Comes level) standing (refuse (α := α) note message fault) :=
  Pursues.log_bind ⟨behind, _, rfl, beaten.heard _⟩

variable {timeout : Option Duration} {standing : Standing}

/-- What a look-up for the mirrored endpoints hands on: whether they are there, and what to write over. -/
def handed (mine : Option Endpoints) : Except Failure (Bool × Endpoints) := .ok (mine.isSome, mine.getD newEndpoints)

private theorem pursues_mirroredEndpoints (known : standing.reached ≤ standing.seen) :
    course.Pursues ledger (fun result last => last.reached = standing.reached ∧ last.reached ≤ last.seen ∧
      result = handed (course.mine last.seen)) standing
      (mirroredEndpoints timeout) := by
  apply Pursues.cluster_bind
  intro phase later
  have within := Phase.le_trans known later
  refine ⟨told (course.mine phase), phase, standing.reached, .stays within, course.reads_mine phase, ?_⟩
  cases found : course.mine phase with
  | some mine => exact ⟨rfl, within, congrArg handed found.symm⟩
  | none =>
    apply Pursues.log_bind
    exact ⟨rfl, within, congrArg handed found.symm⟩

private theorem pursues_mirrorEndpoints (fresh : standing.reached = .untouched) :
    course.Pursues ledger (Comes .repeated) standing (mirrorEndpoints timeout serverSpace serverName) := by
  apply Pursues.cluster_bind
  intro phase later
  have known : standing.reached ≤ phase := fresh ▸ Nat.zero_le _
  refine ⟨.ok course.served, phase, standing.reached, .stays known, course.reads_server phase, ?_⟩
  apply Pursues.bind (pursues_mirroredEndpoints known)
  · rintro value last ⟨same, -, found⟩
    replace same : last.reached = .untouched := same.trans fresh
    cases found
    cases mine : course.mine last.seen with
    | some mine =>
      apply Pursues.cluster_bind
      intro phase later
      refine ⟨.ok (), _, .repeated, .advances (by rw [same]; decide), course.replaces_mine later mine, ?_⟩
      exact ⟨rfl, Phase.least_le_upTo ..⟩
    | none =>
      apply Pursues.cluster_bind
      intro phase later
      have created := course.creates_mine mine phase
      by_cases first : phase = .untouched
      · subst first
        exact ⟨.ok (), _, .repeated, .advances (by rw [same]; decide), created, rfl, Phase.le_refl _⟩
      · rw [if_neg first] at created
        have behind : last.reached < phase := same ▸ Phase.lt_of_le_of_ne (Nat.zero_le _) first
        refine ⟨.error (.answer (some 409) (some "Conflict")), phase, last.reached, .stays (Nat.le_of_lt behind),
          created, ?_⟩
        exact pursues_refuse behind (.endpoints (List.mem_append_right _ (List.mem_singleton_self _)))
  · rintro failure last ⟨-, -, impossible⟩
    cases impossible

private theorem pursues_mirroredService (known : standing.reached ≤ standing.seen) :
    course.Pursues ledger (fun result last => last.reached = standing.reached ∧ standing.seen ≤ last.seen ∧
      result = .ok (course.mirror last.seen)) standing (mirroredService timeout) := by
  apply Pursues.cluster_bind
  intro phase later
  refine ⟨told (course.mirror phase), phase, standing.reached, .stays (Phase.le_trans known later),
    course.reads_mirror phase, ?_⟩
  cases found : course.mirror phase with
  | _ => exact ⟨rfl, later, congrArg Except.ok found.symm⟩

private theorem pursues_mirrorService (come : Comes .repeated (.ok () : Except Failure Unit) standing) :
    course.Pursues ledger (Comes .renewed) standing (mirrorService timeout course.plan.eip course.ports) := by
  obtain ⟨fresh, begun⟩ := come
  apply Pursues.bind (pursues_mirroredService (fresh ▸ begun))
  · rintro value last ⟨same, kept, found⟩
    replace same : last.reached = .repeated := same.trans fresh
    replace begun : .repeated ≤ last.seen := Phase.le_trans begun kept
    cases found
    cases mine : course.mirror last.seen with
    | some existing =>
      have renewed := course.renews_mirror last.seen
      rw [mine] at renewed
      obtain ⟨spec, specified, made⟩ := Option.map_eq_some_iff.mp renewed
      apply Pursues.log_bind
      dsimp only
      rw [specified]
      apply Pursues.cluster_bind
      intro phase later
      refine ⟨.ok (), _, .renewed, .advances (by rw [Standing.heard, same]; decide), ?_, rfl, Phase.least_le_upTo ..⟩
      apply course.replaces_mirror later (Phase.le_trans begun later) mine
      exact congrArg (Option.map _) specified
    | none =>
      apply Pursues.log_bind
      apply Pursues.cluster_bind
      intro phase later
      have further : .repeated ≤ phase := Phase.le_trans begun later
      have created := course.creates_mirror mine further
      by_cases first : phase = .repeated
      · subst first
        exact ⟨.ok (), _, .renewed, .advances (by rw [Standing.heard, same]; decide), created, rfl, Phase.le_refl _⟩
      · rw [if_neg first] at created
        have behind : last.reached < phase := same ▸ Phase.lt_of_le_of_ne further first
        refine ⟨.error (.answer (some 409) (some "Conflict")), phase, last.reached, .stays (Nat.le_of_lt behind),
          created, ?_⟩
        exact pursues_refuse behind (.service (List.mem_append_right _ (List.mem_singleton_self _)))
  · rintro failure last ⟨-, -, impossible⟩
    cases impossible

private theorem pursues_publishStatus (come : Comes .renewed (.ok () : Except Failure Unit) standing) :
    course.Pursues ledger (Comes .shown) standing (publishStatus timeout course.plan.eip) := by
  obtain ⟨fresh, begun⟩ := come
  apply Pursues.cluster_bind
  intro phase later
  replace begun : .renewed ≤ phase := Phase.le_trans begun later
  obtain ⟨mine, found⟩ : ∃ mine, course.mirror phase = some mine := by
    cases phase with
    | untouched | repeated => exact absurd begun (by decide)
    | _ => exact ⟨_, rfl⟩
  refine ⟨.ok mine, phase, standing.reached, .stays (fresh ▸ begun), ?_, ?_⟩
  · rw [course.reads_mirror, found]
    rfl
  apply Pursues.cluster_bind
  intro last after
  refine ⟨.ok (), .shown, .shown, ?_, course.shows_mirror (Phase.le_trans begun after) mine, ?_⟩
  · refine ⟨?_, ?_, Phase.le_refl _, fun _ => rfl⟩
    · cases last <;> decide
    · dsimp only
      rw [fresh]
      decide
  · exact Pursues.log_bind ⟨rfl, Phase.le_refl _⟩

private theorem pursues_targetOf {port : ServicePort} {target : Net.Port} (points : targetIn port = .ok target) :
    course.Pursues ledger (fun result last => result = .ok target ∧ last.reached = standing.reached) standing
      (targetOf port) := by
  unfold targetIn at points
  unfold targetOf
  revert points
  rcases TargetPort.read port.port port.target with number | (_ | warning) | _
  · rintro ⟨⟩
    exact ⟨rfl, rfl⟩
  · rintro ⟨⟩
    exact ⟨rfl, rfl⟩
  · rintro ⟨⟩
    exact Pursues.log_bind ⟨rfl, rfl⟩
  · rintro ⟨⟩

private theorem pursues_observePort :
    course.Pursues ledger (fun result last => result = .ok course.desired ∧ last.reached = standing.reached) standing
      (Job.observePort course.plan.target) :=
  ⟨rfl, fun _ desired => Pursues.logAll_bind fun _ => ⟨congrArg Except.ok desired, rfl⟩⟩

private theorem pursues_mirror (fresh : standing.reached = .untouched) (points : targetIn course.plan.first = .ok course.plan.target) :
    course.Pursues ledger (Comes .shown) standing
      (ServicePass.mirror timeout serverSpace serverName course.plan.first course.plan.others course.plan.eip) := by
  apply Pursues.bind (pursues_targetOf points)
  · rintro _ noted ⟨⟨⟩, same⟩
    apply Pursues.bind pursues_observePort
    · rintro _ observed ⟨⟨⟩, kept⟩
      replace fresh : observed.reached = .untouched := kept.trans (same.trans fresh)
      apply Pursues.bind (pursues_mirrorEndpoints fresh)
      · intro _ repeated come
        apply Pursues.bind (pursues_mirrorService come)
        · exact fun _ renewed come => pursues_publishStatus come
        · exact fun _ _ beaten => beaten
      · exact fun _ _ beaten => beaten
    · rintro _ _ ⟨⟨⟩, -⟩
  · rintro _ _ ⟨⟨⟩, -⟩

private theorem pursues_mirrorFirst {mode : Mode} {services : List (Option Service)}
    (picked : chosen mode services = .ok (some (course.plan.first, course.plan.others)))
    (points : targetIn course.plan.first = .ok course.plan.target) (fresh : standing.reached = .untouched) :
    course.Pursues ledger Ends standing (mirrorFirst timeout mode course.plan.eip services) := by
  induction services with
  | nil =>
    unfold chosen at picked
    split at picked <;> cases picked
  | cons service services ih =>
    obtain _ | ⟨_ | metadata, spec, status, fields⟩ := service
    · cases picked
    · cases picked
    unfold chosen at picked
    unfold mirrorFirst
    dsimp only at picked ⊢
    split at picked
    · rename_i server
      rw [if_pos server]
      revert picked
      rcases (spec.bind (·.ports)).getD [] with _ | ⟨_ | first, others⟩
      · rintro ⟨⟩
      · rintro ⟨⟩
      · rintro ⟨⟩
        apply Pursues.bind (pursues_mirror fresh points)
        · exact fun _ last come => .mirrored come.1
        · rintro _ last ⟨behind, problem, rfl, beaten⟩
          exact .beaten behind beaten
    · rename_i other
      rw [if_neg other]
      exact ih picked

/-- A pass whose plan is that of the course mirrors, or is beaten to a creation. -/
theorem pursues_run {setup : Setup} {mode : Mode} {services : List (Option Service)}
    (fits : Fits setup services mode ledger course.plan) (fresh : standing.reached = .untouched) :
    course.Pursues ledger Ends standing (run setup services mode) := by
  obtain ⟨tagged, ⟨reservation, matched, single, address⟩, picked, points⟩ := fits
  unfold run Resolver.resolve
  have counts : [setup.tag].filter (fun tag => !tag.isEmpty) = [setup.tag] := by simp [tagged]
  simp only [counts, List.isEmpty_cons, Bool.false_eq_true, ↓reduceIte, bind_assoc]
  apply Pursues.list_bind
  rw [matched]
  apply Pursues.log_bind
  dsimp only [NodePass.refuseMultiple]
  rw [if_neg (Nat.not_lt.mpr single), pure_bind, address]
  exact pursues_mirrorFirst picked points fresh

end Course

end ElasticEndpoint.ServicePass
