import ElasticEndpoint.Proofs.Acts
import ElasticEndpoint.Simulation.World

/-!
Acts in the surroundings in memory. A run there is one sequence of acts, each answered from the state
that the acts before it left; the events noted on the way have no influence on any answer.
-/

namespace ElasticEndpoint.World

variable {α : Type}

def acts (world : World) (job : Job α) : List Act :=
  (job.history answer world).filter (!·.request.isLog)

theorem does_acts (world : World) (job : Job α) : Job.Does job (world.acts job) (world.run job).1 :=
  ⟨_, Program.ends_history answer job world, rfl⟩

section

variable {β : Type} {world : World} {job : Job α}

theorem run_andThen (next : Except Failure α → Job β) :
    world.run (job.andThen next) = (world.run job).2.run (next (world.run job).1) :=
  Program.run_andThen answer job next world

theorem acts_andThen (next : Except Failure α → Job β) :
    world.acts (job.andThen next) = world.acts job ++ (world.run job).2.acts (next (world.run job).1) := by
  unfold acts
  rw [Program.history_andThen, List.filter_append]
  rfl

/-- A job that goes on with a value goes on in the state that came with it. -/
theorem run_bind_ok {value : α} {after : World} (ran : world.run job = (.ok value, after)) (next : α → Job β) :
    world.run (job >>= next) = after.run (next value) ∧
      world.acts (job >>= next) = world.acts job ++ after.acts (next value) := by
  change world.run (Program.bind job next) = _ ∧ world.acts (Program.bind job next) = _
  unfold Program.bind
  rw [run_andThen, acts_andThen, ran]
  exact ⟨rfl, rfl⟩

/-- A call to the cluster that does not crash is followed by what is made of its reply. -/
theorem run_cluster_bind {call : Cluster.Call} {timeout : Option Duration} {after : World}
    {given : Except Cluster.Fault call.Reply}
    (told : answer (.cluster call timeout) world = (given.mapError .fault, after))
    (next : Except Cluster.Fault call.Reply → Job β) :
    world.run (Job.cluster call timeout >>= next) = after.run (next given) ∧
      world.acts (Job.cluster call timeout >>= next) =
        .cluster call timeout (given.mapError .fault) :: after.acts (next given) := by
  change Program.run answer (Program.ask _ _) world = _ ∧ (Program.history answer (Program.ask _ _) world).filter _ = _
  unfold Program.run Program.history
  rw [told]
  cases given <;> exact ⟨rfl, rfl⟩

end

/-- Two worlds that differ in their events at most. -/
def Same (first second : World) : Prop := { first with events := [] } = { second with events := [] }

theorem Same.refl (world : World) : Same world world := rfl

theorem Same.symm {first second : World} (same : Same first second) : Same second first := Eq.symm same

theorem Same.trans {first second third : World} (same : Same first second) (other : Same second third) :
    Same first third := Eq.trans same other

/-- A world is the same as another when it is that world with other events. -/
theorem Same.eq {first second : World} (same : Same first second) : first = { second with events := first.events } := by
  have fields := congrArg (fun world : World => { world with events := first.events }) same
  exact fields

/-- The same request gets the same answer in the same world, and leaves the same world behind. -/
theorem Same.answer {first second : World} (same : Same first second) (request : Request) :
    (World.answer request first).1 = (World.answer request second).1 ∧
      Same (World.answer request first).2 (World.answer request second).2 := by
  rw [same.eq]
  generalize first.events = events
  cases request with
  | cluster call timeout =>
    simp only [World.answer, note]
    rcases second.clusterFaults.next call.method with ⟨due | failure, faults⟩ <;> exact ⟨rfl, rfl⟩
  | metal call =>
    simp only [World.answer, note]
    rcases second.metalFaults.next call.method with ⟨due | failure, faults⟩ <;> exact ⟨rfl, rfl⟩
  | _ => exact ⟨rfl, rfl⟩

/-- The acts of a run are answered one after another, and lead to where the run ends. -/
theorem run_answers (world : World) (job : Job α) :
    ∃ after, Program.Answers answer world (world.acts job) after ∧ Same (world.run job).2 after := by
  obtain ⟨after, answered, same⟩ := Job.answers_acts Same (fun _ _ _ same => same)
    (fun request _ _ same => same.answer request) (Program.answers_history answer job world) (.refl world)
  exact ⟨after, answered, same.symm⟩

/-! What a request can change. -/

theorem cluster_answered (call : Cluster.Call) (timeout : Option Duration) (world : World) :
    ∃ cluster clusterFaults events,
      (answer (.cluster call timeout) world).2 = { world with cluster, clusterFaults, events } := by
  simp only [answer, note]
  rcases world.clusterFaults.next call.method with ⟨due | failure, faults⟩ <;> exact ⟨_, _, _, rfl⟩

theorem metal_answered (call : Metal.Call) (world : World) :
    ∃ ledger metalFaults events, (answer (.metal call) world).2 = { world with ledger, metalFaults, events } := by
  simp only [answer, note]
  rcases world.metalFaults.next call.method with ⟨due | failure, faults⟩ <;> exact ⟨_, _, _, rfl⟩

theorem answer_ledger {request : Request} (still : request.change? = none) (world : World) :
    (answer request world).2.ledger = world.ledger := by
  cases request with
  | cluster call timeout =>
    obtain ⟨_, _, _, same⟩ := cluster_answered call timeout world
    rw [same]
  | metal call =>
    simp only [answer, note]
    rcases world.metalFaults.next call.method with ⟨due | failure, faults⟩
    · cases call with
      | list project withAssignments => rfl
      | _ => cases still
    · rfl
  | _ => rfl

theorem answer_guard {request : Request} (entering : request ≠ .enterGuard) (leaving : request ≠ .leaveGuard)
    (world : World) : (answer request world).2.guard = world.guard := by
  cases request with
  | cluster call timeout =>
    obtain ⟨_, _, _, same⟩ := cluster_answered call timeout world
    rw [same]
  | metal call =>
    obtain ⟨_, _, _, same⟩ := metal_answered call world
    rw [same]
  | enterGuard => exact absurd rfl entering
  | leaveGuard => exact absurd rfl leaving
  | _ => rfl

theorem answer_ports {request : Request} (still : ∀ port, request ≠ .observePort port) (world : World) :
    (answer request world).2.ports = world.ports := by
  cases request with
  | cluster call timeout =>
    obtain ⟨_, _, _, same⟩ := cluster_answered call timeout world
    rw [same]
  | metal call =>
    obtain ⟨_, _, _, same⟩ := metal_answered call world
    rw [same]
  | observePort port => exact absurd rfl (still port)
  | _ => rfl

theorem answer_cluster {request : Request} (still : ∀ call timeout, request ≠ .cluster call timeout) (world : World) :
    (answer request world).2.cluster = world.cluster := by
  cases request with
  | cluster call timeout => exact absurd rfl (still call timeout)
  | metal call =>
    obtain ⟨_, _, _, same⟩ := metal_answered call world
    rw [same]
  | _ => rfl

/-- Nothing that is asked of the cluster touches its nodes. -/
theorem nodes_perform (call : Cluster.Call) (store : Cluster.Store) :
    (Cluster.Store.perform call store).2.nodes = store.nodes := by
  cases call <;> simp only [Cluster.Store.perform, Cluster.Store.withEndpoints, Cluster.Store.withServices] <;>
    split <;> rfl

theorem answer_nodes (request : Request) (world : World) :
    (answer request world).2.cluster.nodes = world.cluster.nodes := by
  cases request with
  | cluster call timeout =>
    simp only [answer, note]
    rcases world.clusterFaults.next call.method with ⟨due | failure, faults⟩
    · exact nodes_perform call world.cluster
    · rfl
  | metal call =>
    obtain ⟨_, _, _, same⟩ := metal_answered call world
    rw [same]
  | _ => rfl

theorem answer_lastMove {request : Request} (still : ∀ move, request ≠ .remember move) (world : World) :
    (answer request world).2.lastMove = world.lastMove := by
  cases request with
  | cluster call timeout =>
    obtain ⟨_, _, _, same⟩ := cluster_answered call timeout world
    rw [same]
  | metal call =>
    obtain ⟨_, _, _, same⟩ := metal_answered call world
    rw [same]
  | remember move => exact absurd rfl (still move)
  | _ => rfl

/-- A guard that was entered is left at the end, whatever happened in between, as long as that leaves it alone. -/
theorem answers_guarded {world last : World} {within : List Act} {left : Bool}
    (mild : ∀ act ∈ within, act.request ≠ .enterGuard ∧ act.request ≠ .leaveGuard)
    (answered : Program.Answers answer world (⟨.enterGuard, true⟩ :: (within ++ [⟨.leaveGuard, left⟩])) last) :
    left = true ∧ ∃ ended, Program.Answers answer { world with guard := .busy } within ended ∧
      last = { ended with guard := .idle } := by
  obtain ⟨entered, rest⟩ := Program.answers_cons.mp answered
  obtain ⟨ended, before, after⟩ := Program.answers_append.mp rest
  obtain ⟨leaving, closed⟩ := Program.answers_cons.mp after
  obtain rfl := Program.answers_nil.mp closed
  have idle : world.guard = .idle := by
    cases state : world.guard with
    | idle => rfl
    | busy => simp [answer, Guard.tryEnter, state] at entered
  have start : (answer .enterGuard world).2 = { world with guard := .busy } := by
    simp [answer, Guard.tryEnter, idle]
  rw [start] at before
  have kept (act : Act) (member : act ∈ within) (state : World) (held : state.guard = .busy) :
      (answer act.request state).2.guard = .busy :=
    (answer_guard (mild act member).1 (mild act member).2 state).trans held
  have busy : ended.guard = .busy := before.keeps kept rfl
  have released : left = true := by
    rw [leaving]
    simp [answer, Guard.leave, busy]
  refine ⟨released, ended, before, ?_⟩
  simp [answer, Guard.leave, busy]

/-- A call to the cloud interface takes from the queue of its own kind only. -/
theorem answer_metalFaults {request : Request} {kind : Metal.Method}
    (other : ∀ call, request = .metal call → call.method ≠ kind) (world : World) :
    (answer request world).2.metalFaults kind = world.metalFaults kind := by
  cases request with
  | cluster call timeout =>
    obtain ⟨_, _, _, same⟩ := cluster_answered call timeout world
    rw [same]
  | metal call =>
    have kept : (world.metalFaults.next call.method).2 kind = world.metalFaults kind := by
      unfold Schedule.next
      split
      · rfl
      · exact if_neg (other call rfl).symm
    simp only [answer, note]
    rcases due : world.metalFaults.next call.method with ⟨_ | failure, faults⟩ <;> simpa only [due] using kept
  | _ => rfl

/-- A call to the cloud interface that is answered was not due for a fault, and is performed. -/
theorem answer_metal_ok (call : Metal.Call) (reply : call.Reply) {world : World}
    (answered : .ok reply = (answer (.metal call) world).1) :
    (world.metalFaults.next call.method).1 = none ∧ reply = (Metal.Ledger.perform call world.ledger).1 ∧
      (answer (.metal call) world).2.ledger = (Metal.Ledger.perform call world.ledger).2 := by
  simp only [answer, note] at answered ⊢
  rcases due : world.metalFaults.next call.method with ⟨_ | failure, faults⟩
  · simp only [due, Except.ok.injEq] at answered
    exact ⟨rfl, answered, rfl⟩
  · simp only [due] at answered
    cases answered

/-- A call to the cloud interface that fails was due for that fault, and has no effect. -/
theorem answer_metal_error (call : Metal.Call) (failure : Failure) {world : World}
    (answered : .error failure = (answer (.metal call) world).1) :
    (world.metalFaults.next call.method).1 = some failure ∧ (answer (.metal call) world).2.ledger = world.ledger := by
  simp only [answer, note] at answered ⊢
  rcases due : world.metalFaults.next call.method with ⟨_ | other, faults⟩
  · simp only [due] at answered
    cases answered
  · simp only [due, Except.error.injEq] at answered
    exact ⟨congrArg some answered.symm, rfl⟩

/-- A call to the cluster meets the fault that is due for it and has no effect, or it is performed. -/
theorem answer_call (call : Cluster.Call) (timeout : Option Duration) (world : World) :
    (∃ failure, (world.clusterFaults.next call.method).1 = some failure ∧
      (answer (.cluster call timeout) world).1 = .error failure ∧
        (answer (.cluster call timeout) world).2.cluster = world.cluster) ∨
      (world.clusterFaults.next call.method).1 = none ∧
        (answer (.cluster call timeout) world).1 = (Cluster.Store.perform call world.cluster).1 ∧
          (answer (.cluster call timeout) world).2.cluster = (Cluster.Store.perform call world.cluster).2 := by
  simp only [answer, note]
  rcases world.clusterFaults.next call.method with ⟨_ | failure, faults⟩
  · exact .inr ⟨rfl, rfl, rfl⟩
  · exact .inl ⟨failure, rfl, rfl, rfl⟩

/-- No faults are due. -/
structure Calm (world : World) : Prop where
  cluster : world.clusterFaults = Schedule.clear
  metal : world.metalFaults = Schedule.clear

/-- A world after whose faults no more are due. -/
def calmed (world : World) : World :=
  { world with clusterFaults := Schedule.clear, metalFaults := Schedule.clear }

theorem calm_calmed (world : World) : Calm world.calmed := ⟨rfl, rfl⟩

theorem calm_answer {world : World} (calm : Calm world) (request : Request) : Calm (answer request world).2 := by
  have queued {κ φ : Type} [DecidableEq κ] (kind : κ) :
      (Schedule.clear : Schedule κ φ).next kind = (none, Schedule.clear) := rfl
  cases request with
  | cluster call timeout =>
    simp only [answer, note, calm.cluster, queued]
    exact ⟨rfl, calm.metal⟩
  | metal call =>
    simp only [answer, note, calm.metal, queued]
    exact ⟨calm.cluster, rfl⟩
  | _ => exact ⟨calm.cluster, calm.metal⟩

theorem calm_answers {acts : List Act} {world last : World} (answered : Program.Answers answer world acts last)
    (calm : Calm world) : Calm last := answered.keeps (fun _ _ _ still => calm_answer still _) calm

section

variable {calm : Prop} {world last : World} {call : Cluster.Call} {timeout : Option Duration}
  {reply : Except Cluster.CallFailure call.Reply} {rest : List Act}

/-- A call to the cluster is performed, unless the world is not calm; then it may fail and has no effect. -/
theorem answers_call (still : calm → Calm world)
    (answered : Program.Answers answer world (Act.cluster call timeout reply :: rest) last) :
    ∃ middle, Program.Answers answer middle rest last ∧ (calm → Calm middle) ∧
      ((¬calm ∧ (∃ failure, reply = .error failure) ∧ middle.cluster = world.cluster) ∨
        reply = (Cluster.Store.perform call world.cluster).1 ∧
          middle.cluster = (Cluster.Store.perform call world.cluster).2) := by
  obtain ⟨replied, later⟩ := Program.answers_cons.mp answered
  refine ⟨_, later, fun clear => calm_answer (still clear) _, ?_⟩
  rcases answer_call call timeout world with ⟨failure, due, failed, same⟩ | ⟨-, told, same⟩
  · refine .inl ⟨fun clear => ?_, ⟨failure, replied.trans failed⟩, same⟩
    rw [(still clear).cluster] at due
    cases due
  · exact .inr ⟨replied.trans told, same⟩

/-- A call that only looks leaves the cluster as it is. -/
theorem answers_look (still : calm → Calm world) (looks : ∀ store, (Cluster.Store.perform call store).2 = store)
    (answered : Program.Answers answer world (Act.cluster call timeout reply :: rest) last) :
    ∃ middle, Program.Answers answer middle rest last ∧ (calm → Calm middle) ∧ middle.cluster = world.cluster ∧
      ((¬calm ∧ ∃ failure, reply = .error failure) ∨ reply = (Cluster.Store.perform call world.cluster).1) := by
  obtain ⟨middle, later, clear, ⟨stormy, failed, same⟩ | ⟨replied, same⟩⟩ := answers_call still answered
  · exact ⟨middle, later, clear, same, .inl ⟨stormy, failed⟩⟩
  · exact ⟨middle, later, clear, same.trans (looks _), .inr replied⟩

end

end ElasticEndpoint.World
