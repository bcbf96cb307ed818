import ElasticEndpoint.Proofs.Interleaving
import ElasticEndpoint.Proofs.PassRequests
import ElasticEndpoint.Proofs.WorldActs

/-!
Single flight. However the requests of node passes that share a guard are interleaved, one pass at a time is
between entering the guard and leaving it, and only such a pass makes calls.
-/

namespace ElasticEndpoint

/-- Whether a request is a call to the cluster, to the cloud interface or over HTTP. -/
def Request.isCall : Request → Bool
  | .cluster _ _ | .metal _ | .http _ => true
  | _ => false

namespace NodePass

open Program (Interleaving)
open World (answer)

/-- Where a pass stands to the guard: it has not tried to enter yet, was refused, is inside, or has left. -/
inductive Stage where
  | waiting
  | refused
  | inside
  | gone
  deriving DecidableEq

namespace Stage

/-- The stage after an act. -/
def after : Stage → Act → Stage
  | .waiting, ⟨.enterGuard, entered⟩ => if entered then .inside else .refused
  | .inside, ⟨.leaveGuard, _⟩ => .gone
  | stage, _ => stage

/-- The stage that the acts of a pass lead to. -/
def reached (acts : List Act) : Stage := acts.foldl after .waiting

/-- What a pass may ask for at a stage. -/
def Allows : Stage → Request → Prop
  | .waiting, request => request.isLog = true ∨ request = .enterGuard
  | .refused, request => request.isLog = true ∨ request = .guardState
  | .inside, request => request.isNodeWork = true ∨ request = .leaveGuard
  | .gone, _ => False

/-- A pass keeps to its stage, and is done only when it has left, or is skipped when it was refused. -/
def Governs : Stage → Job Outcome → Prop
  | stage, Program.done result => stage = .gone ∨ stage = .refused ∧ result = .ok .skipped
  | stage, Program.ask request next => stage.Allows request ∧ ∀ reply, (stage.after ⟨request, reply⟩).Governs (next reply)

private theorem after_work {request : Request} (work : request.isNodeWork = true) (reply : request.Reply) :
    Stage.inside.after ⟨request, reply⟩ = .inside := by
  cases request with
  | leaveGuard => cases work
  | _ => rfl

theorem governs_andThen {job : Job Outcome} {next : Except Failure Outcome → Job Outcome} (work : job.IsNodeWork)
    (rest : ∀ result, Stage.inside.Governs (next result)) : Stage.inside.Governs (job.andThen next) := by
  induction job with
  | done result => exact rest result
  | ask request later ih =>
    refine ⟨.inl work.1, fun reply => ?_⟩
    rw [after_work work.1]
    exact ih reply (work.2 reply)

private theorem governs_run (setup : Setup) (nodes : List (Option Cluster.Node)) : Stage.waiting.Governs (run setup nodes) := by
  refine ⟨.inl rfl, fun _ => ⟨.inr rfl, fun entered => ?_⟩⟩
  cases entered with
  | false => exact ⟨.inr rfl, fun _ => ⟨.inl rfl, fun _ => .inr ⟨rfl, rfl⟩⟩⟩
  | true =>
    apply governs_andThen (work_inside setup nodes)
    intro result
    refine ⟨.inr rfl, fun left => ?_⟩
    cases left <;> exact .inl rfl

end Stage

/-- Node passes over one manager, in some surroundings. -/
def together (world : World) (passes : List (Setup × List (Option Cluster.Node))) :
    Interleaving Request.Reply Failure Outcome World where
  state := world
  members := passes.map fun (setup, nodes) => run setup nodes

/-- The stage of a pass after some turns. -/
def stageIn (turns : List (Nat × Act)) (index : Nat) : Stage := .reached (Interleaving.own turns index)

@[simp]
theorem stageIn_self (turns : List (Nat × Act)) (index : Nat) (act : Act) :
    stageIn (turns ++ [(index, act)]) index = (stageIn turns index).after act := by
  simp [stageIn, Stage.reached]

private theorem stageIn_other (turns : List (Nat × Act)) {index other : Nat} (apart : other ≠ index) (act : Act) :
    stageIn (turns ++ [(other, act)]) index = stageIn turns index := by
  unfold stageIn
  rw [Interleaving.own_append_other turns apart]

namespace Stage

/-- What a turn does to the guard and to the stage of its pass. -/
inductive Moves (before after : Guard) : Stage → Request → Stage → Prop where
  | still {stage request} (kept : after = before) : Moves before after stage request stage
  | entered (idle : before = .idle) (taken : after = .busy) : Moves before after .waiting .enterGuard .inside
  | refused (busy : before = .busy) (kept : after = .busy) : Moves before after .waiting .enterGuard .refused
  | left (free : after = .idle) : Moves before after .inside .leaveGuard .gone

theorem moves {stage : Stage} {request : Request} (allows : stage.Allows request) (world : World) :
    Moves world.guard (answer request world).2.guard stage request (stage.after ⟨request, (answer request world).1⟩) := by
  cases stage with
  | waiting =>
    rcases allows with silent | rfl
    · cases request with
      | log record => exact .still rfl
      | _ => cases silent
    · cases state : world.guard with
      | idle =>
        have entering : answer .enterGuard world = (true, { world with guard := .busy }) := by
          simp only [answer, state, Guard.tryEnter]
        rw [entering]
        exact .entered rfl rfl
      | busy =>
        have refusing : answer .enterGuard world = (false, { world with guard := .busy }) := by
          simp only [answer, state, Guard.tryEnter]
        rw [refusing]
        exact .refused rfl rfl
  | refused =>
    rcases allows with silent | rfl
    · cases request with
      | log record => exact .still rfl
      | _ => cases silent
    · exact .still rfl
  | inside =>
    rcases allows with work | rfl
    · rw [after_work work]
      apply Moves.still
      apply World.answer_guard
      · rintro rfl
        cases work
      · rintro rfl
        cases work
    · apply Moves.left
      change world.guard.leave.2 = .idle
      cases world.guard <;> rfl
  | gone => exact allows.elim

end Stage

/-- A turn as it may be taken after others. A pass is let in exactly when no other is inside, and is let out
whenever it asks. -/
structure Fair (past : List (Nat × Act)) (index : Nat) (act : Act) : Prop where
  allowed : (stageIn past index).Allows act.request
  admitted : ∀ entered : Bool, act = ⟨.enterGuard, entered⟩ → (entered = true ↔ ∀ other, stageIn past other ≠ .inside)
  released : ∀ left : Bool, act = ⟨.leaveGuard, left⟩ → left = true

/-- The invariant of passes that share a guard. -/
structure Orderly (passes : Interleaving Request.Reply Failure Outcome World) : Prop where
  governed : ∀ index job, passes.members[index]? = some job → (stageIn passes.turns index).Governs job
  absent : ∀ index, passes.members[index]? = none → stageIn passes.turns index = .waiting
  busy : passes.state.guard = .busy ↔ ∃ index, stageIn passes.turns index = .inside
  alone : ∀ past, past <+: passes.turns → ∀ index other, stageIn past index = .inside →
    stageIn past other = .inside → other = index
  fair : ∀ past rest index act, passes.turns = past ++ (index, act) :: rest → Fair past index act

variable {passes : Interleaving Request.Reply Failure Outcome World}

private theorem orderly_together {world : World} (idle : world.guard = .idle)
    (passes : List (Setup × List (Option Cluster.Node))) :
    Orderly (together world passes) := by
  constructor
  · intro index job there
    obtain ⟨pass, -, rfl⟩ := List.getElem?_map .. ▸ there |> Option.map_eq_some_iff.mp
    exact Stage.governs_run pass.1 pass.2
  · exact fun _ _ => rfl
  · constructor
    · intro busy
      rw [show (together world passes).state.guard = world.guard from rfl, idle] at busy
      cases busy
    · rintro ⟨index, impossible⟩
      cases impossible
  · intro past before index other inside
    obtain rfl := List.prefix_nil.mp before
    cases inside
  · intro past rest index act split
    simp [together] at split

/-- The guard stays busy exactly while a pass is inside, and lets no second one in. -/
theorem inside_turn {before after : Guard} {turns : List (Nat × Act)} {index : Nat} (act : Act)
    (moved : Stage.Moves before after (stageIn turns index) act.request ((stageIn turns index).after act))
    (busy : before = .busy ↔ ∃ index, stageIn turns index = .inside)
    (alone : ∀ index other, stageIn turns index = .inside → stageIn turns other = .inside → other = index) :
    let next := stageIn (turns ++ [(index, act)])
    (after = .busy ↔ ∃ index, next index = .inside) ∧
      ∀ index other, next index = .inside → next other = .inside → other = index := by
  intro next
  have self : next index = (stageIn turns index).after act := stageIn_self turns index act
  have others (other : Nat) (apart : index ≠ other) : next other = stageIn turns other := stageIn_other turns apart act
  generalize reached : (stageIn turns index).after act = stage at moved self
  generalize stood : stageIn turns index = former at moved
  generalize act.request = request at moved
  -- A turn after which the same passes are inside as before leaves both as they were.
  have unmoved (same : ∀ other, next other = .inside ↔ stageIn turns other = .inside) (kept : after = before) :
      (after = .busy ↔ ∃ index, next index = .inside) ∧
        ∀ index other, next index = .inside → next other = .inside → other = index := by
    rw [kept]
    simp only [same]
    exact ⟨busy, alone⟩
  have steady (kept : after = before) (outside : next index = .inside ↔ stageIn turns index = .inside) := by
    apply unmoved _ kept
    intro other
    by_cases apart : index = other
    · rw [← apart]
      exact outside
    · rw [others other apart]
  cases moved with
  | still kept =>
    apply steady kept
    rw [self, stood]
  | refused held kept =>
    apply steady (kept.trans held.symm)
    simp [self, stood]
  | entered idle taken =>
    have empty (other : Nat) : stageIn turns other ≠ .inside := by
      intro inside
      rw [busy.mpr ⟨other, inside⟩] at idle
      cases idle
    have only (other : Nat) (inside : next other = .inside) : other = index := by
      apply Classical.byContradiction
      intro apart
      exact empty other (others other (Ne.symm apart) ▸ inside)
    refine ⟨⟨fun _ => ⟨index, self⟩, fun _ => taken⟩, ?_⟩
    intro first second inside too
    rw [only first inside, only second too]
  | left free =>
    have empty (other : Nat) : next other ≠ .inside := by
      intro inside
      by_cases apart : index = other
      · rw [← apart, self] at inside
        cases inside
      · rw [others other apart] at inside
        exact apart (alone index other stood inside).symm
    refine ⟨⟨fun held => ?_, fun ⟨other, inside⟩ => absurd inside (empty other)⟩, ?_⟩
    · rw [free] at held
      cases held
    · exact fun index _ inside => absurd inside (empty index)

/-- A pass may take the turn that the guard's answer makes of its request. -/
theorem fair_turn (orderly : Orderly passes) {index : Nat} {request : Request}
    (allows : (stageIn passes.turns index).Allows request) :
    Fair passes.turns index ⟨request, (answer request passes.state).1⟩ := by
  constructor
  · exact allows
  · intro entered entering
    cases entering
    change passes.state.guard.tryEnter.1 = true ↔ _
    rw [← not_exists, ← orderly.busy]
    cases passes.state.guard <;> simp [Guard.tryEnter]
  · intro left leaving
    cases leaving
    have inside : stageIn passes.turns index = .inside := by
      cases stood : stageIn passes.turns index with
      | inside => rfl
      | waiting | refused =>
        rw [stood] at allows
        rcases allows with impossible | impossible <;> cases impossible
      | gone =>
        rw [stood] at allows
        exact allows.elim
    change passes.state.guard.leave.1 = true
    rw [orderly.busy.mpr ⟨index, inside⟩]
    rfl

private theorem orderly_turn (orderly : Orderly passes) (index : Nat) : Orderly (passes.turn answer index) := by
  rcases Interleaving.turn_cases answer passes index with same | ⟨request, next, there, turned⟩
  · rw [same]
    exact orderly
  rw [turned]
  obtain ⟨allows, governs⟩ := orderly.governed index _ there
  obtain ⟨busy, alone⟩ := inside_turn ⟨request, (answer request passes.state).1⟩ (Stage.moves allows passes.state)
    orderly.busy (orderly.alone _ (List.prefix_refl _))
  have inside : index < passes.members.length := (List.getElem?_eq_some_iff.mp there).1
  constructor
  -- Only the member whose turn it was has moved on; all others stand at their stage.
  · intro other job among
    dsimp only at among ⊢
    by_cases same : index = other
    · subst same
      rw [List.getElem?_set_self inside] at among
      cases among
      rw [stageIn_self]
      exact governs _
    · rw [stageIn_other _ same]
      rw [List.getElem?_set_ne same] at among
      exact orderly.governed other job among
  · intro other missing
    dsimp only at missing ⊢
    have apart : index ≠ other := by
      rintro rfl
      simp [inside] at missing
    rw [stageIn_other _ apart]
    rw [List.getElem?_set_ne apart] at missing
    exact orderly.absent other missing
  · exact busy
  · intro past before
    rcases List.prefix_concat_iff.mp before with rfl | before
    · exact alone
    · exact orderly.alone past before
  · intro past rest other act split
    rcases Interleaving.taken_last split with ⟨rfl, same⟩ | ⟨between, before⟩
    · cases same
      exact fair_turn orderly allows
    · exact orderly.fair past between other act before

private theorem orderly_play {world : World} (idle : world.guard = .idle) (passes : List (Setup × List (Option Cluster.Node)))
    (schedule : List Nat) : Orderly ((together world passes).play answer schedule) :=
  Interleaving.play_keeps answer Orderly (fun _ index orderly => orderly_turn orderly index)
    (orderly_together idle passes) schedule

namespace Stage

private theorem foldl_refused (acts : List Act) : acts.foldl after .refused = .refused := by
  induction acts with
  | nil => rfl
  | cons act acts ih => exact ih

private theorem foldl_gone (acts : List Act) : acts.foldl after .gone = .gone := by
  induction acts with
  | nil => rfl
  | cons act acts ih => exact ih

private theorem foldl_inside (acts : List Act) : acts.foldl after .inside = .inside ∨ acts.foldl after .inside = .gone := by
  induction acts with
  | nil => exact .inl rfl
  | cons act acts ih =>
    obtain ⟨request, reply⟩ := act
    cases request with
    | leaveGuard => exact .inr (foldl_gone acts)
    | _ => exact ih

private theorem inside_of_call {stage : Stage} {request : Request} (allows : stage.Allows request)
    (call : request.isCall = true) : stage = .inside := by
  cases stage with
  | inside => rfl
  | gone => exact allows.elim
  | waiting | refused =>
    rcases allows with silent | rfl
    · cases request with
      | log record => cases call
      | _ => cases silent
    · cases call

/-- A pass that is not let in leaves everything as it is. -/
theorem same_of_outside {stage : Stage} {request : Request} (allows : stage.Allows request) (world : World)
    (outside : stage.after ⟨request, (answer request world).1⟩ = .waiting ∨
      stage.after ⟨request, (answer request world).1⟩ = .refused) : World.Same (answer request world).2 world := by
  have recorded (silent : request.isLog = true) : World.Same (answer request world).2 world := by
    cases request with
    | log record => rfl
    | _ => cases silent
  cases stage with
  | waiting =>
    rcases allows with silent | rfl
    · exact recorded silent
    · cases state : world.guard with
      | idle =>
        have entering : answer .enterGuard world = (true, { world with guard := .busy }) := by
          simp only [answer, state, Guard.tryEnter]
        rw [entering] at outside
        rcases outside with impossible | impossible <;> cases impossible
      | busy =>
        simp only [answer, state, Guard.tryEnter]
        rw [← state]
        rfl
  | refused =>
    rcases allows with silent | rfl
    · exact recorded silent
    · rfl
  | inside =>
    rcases allows with work | rfl
    · rw [after_work work] at outside
      rcases outside with impossible | impossible <;> cases impossible
    · rcases outside with impossible | impossible <;> cases impossible
  | gone => exact allows.elim

end Stage

theorem stageIn_append (first rest : List (Nat × Act)) (index : Nat) :
    stageIn (first ++ rest) index = (Interleaving.own rest index).foldl Stage.after (stageIn first index) := by
  simp [stageIn, Stage.reached, Interleaving.own]

/-- A pass that was inside and is inside was so all the while. -/
theorem inside_between {past between rest : List (Nat × Act)} {index : Nat} (before : stageIn past index = .inside)
    (now : stageIn (past ++ between ++ rest) index = .inside) : stageIn (past ++ between) index = .inside := by
  rw [stageIn_append] at now
  rw [stageIn_append, before] at now ⊢
  rcases Stage.foldl_inside (Interleaving.own between index) with inside | gone
  · exact inside
  · rw [gone, Stage.foldl_gone] at now
    cases now

/-- What holds at every moment of passes over one guard. -/
structure SingleFlight (passes : Interleaving Request.Reply Failure Outcome World) : Prop where
  alone : ∀ past, past <+: passes.turns → ∀ index other, stageIn past index = .inside →
    stageIn past other = .inside → other = index
  busy : passes.state.guard = .busy ↔ ∃ index, stageIn passes.turns index = .inside
  called : ∀ past rest index act, passes.turns = past ++ (index, act) :: rest → act.request.isCall = true →
    stageIn past index = .inside
  apart : ∀ past between more rest index other first middle last,
    passes.turns = past ++ (index, first) :: between ++ (other, middle) :: more ++ (index, last) :: rest →
    first.request.isCall = true → middle.request.isCall = true → last.request.isCall = true → other = index
  admitted : ∀ past rest index (entered : Bool), passes.turns = past ++ (index, ⟨.enterGuard, entered⟩) :: rest →
    (entered = true ↔ ∀ other, stageIn past other ≠ .inside)
  released : ∀ past rest index (left : Bool), passes.turns = past ++ (index, ⟨.leaveGuard, left⟩) :: rest → left = true
  uncalled : ∀ index, stageIn passes.turns index = .refused →
    ∀ act ∈ Interleaving.own passes.turns index, act.request.isCall = false
  skipped : ∀ index, stageIn passes.turns index = .refused →
    (∀ result, passes.members[index]? = some (.done result) → result = .ok .skipped) ∧
      ∃ count, (passes.play answer (List.replicate count index)).members[index]? = some (.done (.ok .skipped))
  unmoved : ∀ index, stageIn (passes.turn answer index).turns index = .waiting ∨
    stageIn (passes.turn answer index).turns index = .refused → World.Same (passes.turn answer index).state passes.state
  idle : (∀ index job, passes.members[index]? = some job →
    Interleaving.own passes.turns index = [] ∨ ∃ result, job = .done result) → passes.state.guard = .idle

private theorem inside_of_called (orderly : Orderly passes) {past rest : List (Nat × Act)} {index : Nat} {act : Act}
    (taken : passes.turns = past ++ (index, act) :: rest) (call : act.request.isCall = true) :
    stageIn past index = .inside :=
  Stage.inside_of_call (orderly.fair past rest index act taken).allowed call

private theorem uncalled_of_refused (orderly : Orderly passes) {index : Nat}
    (refused : stageIn passes.turns index = .refused) :
    ∀ act ∈ Interleaving.own passes.turns index, act.request.isCall = false := by
  intro act member
  obtain ⟨⟨owner, act⟩, taken, mine⟩ := List.mem_filterMap.mp member
  dsimp only at mine
  split at mine
  · cases mine
    subst owner
    apply Bool.eq_false_iff.mpr
    intro call
    obtain ⟨past, rest, split⟩ := List.append_of_mem taken
    have inside := inside_of_called orderly split call
    rw [split, stageIn_append, inside] at refused
    rcases Stage.foldl_inside (Interleaving.own ((index, act) :: rest) index) with other | other <;>
      · rw [other] at refused
        cases refused
  · cases mine

private theorem refused_turn {index : Nat} (other : Nat) (refused : stageIn passes.turns index = .refused) :
    stageIn (passes.turn answer other).turns index = .refused := by
  rcases Interleaving.turn_cases answer passes other with same | ⟨request, next, -, turned⟩
  · rw [same]
    exact refused
  · rw [turned, stageIn_append, refused]
    exact Stage.foldl_refused _

private theorem ended_of_done (orderly : Orderly passes) {index : Nat} {result : Except Failure Outcome}
    (done : passes.members[index]? = some (.done result)) :
    stageIn passes.turns index = .gone ∨ stageIn passes.turns index = .refused ∧ result = .ok .skipped :=
  orderly.governed index _ done

private theorem skipped_of_done (orderly : Orderly passes) {index : Nat} (refused : stageIn passes.turns index = .refused)
    {result : Except Failure Outcome} (done : passes.members[index]? = some (.done result)) :
    result = .ok .skipped := by
  rcases ended_of_done orderly done with gone | ⟨-, same⟩
  · rw [refused] at gone
    cases gone
  · exact same

/-- Between two calls of one pass, no other makes a call. -/
theorem apart_of_calls (orderly : Orderly passes) {past between more rest : List (Nat × Act)} {index other : Nat}
    {first middle last : Act}
    (split : passes.turns = past ++ (index, first) :: between ++ (other, middle) :: more ++ (index, last) :: rest)
    (calls : first.request.isCall = true) (callsBetween : middle.request.isCall = true)
    (callsAgain : last.request.isCall = true) : other = index := by
  have entering : passes.turns =
      past ++ (index, first) :: (between ++ (other, middle) :: more ++ (index, last) :: rest) := by
    rw [split]
    simp
  have passing : passes.turns =
      (past ++ (index, first) :: between) ++ (other, middle) :: (more ++ (index, last) :: rest) := by
    rw [split]
    simp
  -- The pass of the first and the last call is inside at the one between them, as that one's own pass is.
  have before := inside_of_called orderly entering calls
  have after : stageIn (past ++ ((index, first) :: between) ++ (other, middle) :: more) index = .inside :=
    inside_of_called orderly split callsAgain
  have inside := inside_between before after
  have present := inside_of_called orderly passing callsBetween
  apply orderly.alone _ _ index other inside present
  rw [split, List.append_assoc]
  exact List.prefix_append _ _

/-- A refused pass that is given enough turns ends skipped: it stays refused through all of them. -/
theorem ends_skipped (orderly : Orderly passes) {index : Nat} (refused : stageIn passes.turns index = .refused) :
    ∃ count, (passes.play answer (List.replicate count index)).members[index]? = some (.done (.ok .skipped)) := by
  cases there : passes.members[index]? with
  | none =>
    rw [orderly.absent index there] at refused
    cases refused
  | some job =>
    obtain ⟨count, result, done⟩ := Interleaving.ends_alone answer there
    have later := Interleaving.play_keeps answer
      (fun passes => Orderly passes ∧ stageIn passes.turns index = .refused)
      (fun _ other still => ⟨orderly_turn still.1 other, refused_turn other still.2⟩) ⟨orderly, refused⟩
      (List.replicate count index)
    rw [skipped_of_done later.1 later.2 done] at done
    exact ⟨count, done⟩

/-- The guard is idle where every pass has not started or is done, since one that is inside has and is not. -/
theorem idle_of_gone (orderly : Orderly passes) (gone : ∀ index job, passes.members[index]? = some job →
    Interleaving.own passes.turns index = [] ∨ ∃ result, job = .done result) : passes.state.guard = .idle := by
  cases state : passes.state.guard with
  | idle => rfl
  | busy =>
    obtain ⟨index, inside⟩ := orderly.busy.mp state
    cases there : passes.members[index]? with
    | none =>
      rw [orderly.absent index there] at inside
      cases inside
    | some job =>
      rcases gone index job there with unstarted | ⟨result, rfl⟩
      · rw [stageIn, unstarted] at inside
        cases inside
      · have ended := ended_of_done orderly there
        rw [inside] at ended
        rcases ended with impossible | ⟨impossible, -⟩ <;> cases impossible

private theorem singleFlight_of_orderly (orderly : Orderly passes) : SingleFlight passes := by
  constructor
  · exact orderly.alone
  · exact orderly.busy
  · exact fun past rest index act taken call => inside_of_called orderly taken call
  · exact fun past between more rest index other first middle last split calls callsBetween callsAgain =>
      apart_of_calls orderly split calls callsBetween callsAgain
  · exact fun past rest index entered taken => (orderly.fair past rest index _ taken).admitted entered rfl
  · exact fun past rest index left taken => (orderly.fair past rest index _ taken).released left rfl
  · exact fun index refused => uncalled_of_refused orderly refused
  · exact fun index refused => ⟨fun result done => skipped_of_done orderly refused done, ends_skipped orderly refused⟩
  · intro index outside
    rcases Interleaving.turn_cases answer passes index with same | ⟨request, next, there, turned⟩
    · rw [same]
      exact .refl _
    · rw [turned] at outside ⊢
      simp only [stageIn_self] at outside
      exact Stage.same_of_outside (orderly.governed index _ there).1 passes.state outside
  · exact idle_of_gone orderly

/-- Single flight, for all passes over one manager and all schedules of their turns, whatever they are answered. -/
theorem single_flight (world : World) (idle : world.guard = .idle) (passes : List (Setup × List (Option Cluster.Node)))
    (schedule : List Nat) : SingleFlight ((together world passes).play answer schedule) :=
  singleFlight_of_orderly (orderly_play idle passes schedule)

/-- A manager whose listing of reservations is refused once. -/
def contested : World where
  metalFaults := Schedule.clear.set .list [some (.problem .noTag)]
  ports := Ports.configured (.number 6443)

/-- Two passes over it: the second meets the guard while the first is inside, which then ends in a problem. -/
def contest : Interleaving Request.Reply Failure Outcome World :=
  (together contested [(⟨"project", "eip", .unhealthy, none, none⟩, []),
    (⟨"project", "eip", .error, none, none⟩, [none])]).play answer [0, 0, 1, 1, 0, 1, 1, 0, 0]

theorem single_flight_contest :
    contested.guard = .idle ∧ contest.members[0]? = some (.done (.error (.problem .noTag))) ∧
      contest.members[1]? = some (.done (.ok .skipped)) ∧ contest.state.guard = .idle ∧ SingleFlight contest := by
  have flight : SingleFlight contest := single_flight contested rfl _ _
  refine ⟨rfl, by rfl, by rfl, flight.idle fun index job there => .inr ?_, flight⟩
  match index, there with
  | 0, there | 1, there => exact ⟨_, (Option.some.inj there).symm⟩

end NodePass

end ElasticEndpoint
