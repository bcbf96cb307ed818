import ElasticEndpoint.Proofs.WorldActs

/-!
Attempts at a guard. A routine enters and leaves one guard as it likes, inside attempts and outside, and what it
raises unwinds through the attempts around it. Whatever it does, an entered attempt ends with an idle guard; and as
long as it leaves the guard only by ending attempts, every attempt ends with the guard that it began with.
-/

namespace ElasticEndpoint

namespace Guard

/-- What a job ends in from a state of the guard, and the state it leaves. -/
def outcome {α : Type} (job : Job α) (guard : Guard) : Except Failure α × Guard :=
  let (result, world) := World.run { guard := guard } job
  (result, world.guard)

/-- A job that depends on nothing but the guard, and changes nothing else. -/
def Concerns {α : Type} (job : Job α) : Prop :=
  ∀ world : World, world.run job = ((outcome job world.guard).1, { world with guard := (outcome job world.guard).2 })

section

variable {α β : Type}

private theorem concerns_done (result : Except Failure α) : Concerns (.done result) := fun _ => rfl

private theorem concerns_enter : Concerns (Job.ask .enterGuard) := fun _ => rfl

private theorem concerns_leaveGuard : Concerns Job.leaveGuard := by
  intro world
  cases state : world.guard <;>
    simp [outcome, World.run, Job.leaveGuard, Job.ask, Job.crash, Bind.bind, Program.bind, Program.andThen, Program.run,
      World.answer, leave, state, pure, Program.fail]

variable {job : Job α}

theorem outcome_andThen (concerns : Concerns job) (next : Except Failure α → Job β) (guard : Guard) :
    outcome (job.andThen next) guard = outcome (next (outcome job guard).1) (outcome job guard).2 := by
  unfold outcome
  rw [World.run_andThen, concerns { guard := guard }]

theorem Concerns.andThen (concerns : Concerns job) {next : Except Failure α → Job β}
    (rest : ∀ result, Concerns (next result)) : Concerns (job.andThen next) := by
  intro world
  rw [World.run_andThen, outcome_andThen concerns, concerns world]
  exact rest _ _

theorem Concerns.bind (concerns : Concerns job) {next : α → Job β} (rest : ∀ value, Concerns (next value)) :
    Concerns (job >>= next) := by
  apply concerns.andThen
  rintro (failure | value)
  · exact concerns_done _
  · exact rest value

/-- Going on with a job after what came before it, unless that ended in a failure. -/
def continued (before : Except Failure α × Guard) (next : α → Job β) : Except Failure β × Guard :=
  match before with
  | (.ok value, guard) => outcome (next value) guard
  | (.error failure, guard) => (.error failure, guard)

theorem outcome_bind (concerns : Concerns job) (next : α → Job β) (guard : Guard) :
    outcome (job >>= next) guard = continued (outcome job guard) next := by
  change outcome (job.andThen _) guard = _
  rw [outcome_andThen concerns]
  rcases outcome job guard with ⟨_ | value, last⟩ <;> rfl

/-- What leaving an idle guard raises. -/
abbrev idleFailure : Failure := .crash (.runtime leftWhileIdle)

/-- Ending an attempt: only an entered one leaves the guard, and not being able to takes the place of what the body
ended in. -/
def close (entered : Bool) : Except Failure α × Guard → Except Failure α × Guard
  | (result, guard) =>
    if entered then (if guard = .idle then .error idleFailure else result, .idle) else (result, guard)

private theorem concerns_guarded {body : Bool → Job α} (concerns : ∀ entered, Concerns (body entered)) :
    Concerns (Job.guarded body) := by
  apply concerns_enter.bind
  intro (entered : Bool)
  apply (concerns entered).andThen
  intro result
  cases entered with
  | false => exact concerns_done result
  | true => exact concerns_leaveGuard.bind fun _ => concerns_done result

/-- An attempt runs its body from the busy guard, tells it whether it was idle before, and is closed. -/
theorem outcome_guarded {body : Bool → Job α} (concerns : ∀ entered, Concerns (body entered)) (guard : Guard) :
    outcome (Job.guarded body) guard =
      close (guard = .idle) (outcome (body (guard = .idle)) .busy) := by
  have entering : outcome (Job.ask .enterGuard) guard = (.ok (decide (guard = .idle)), .busy) := by
    cases guard <;> rfl
  change outcome (Job.ask .enterGuard >>= _) guard = _
  rw [outcome_bind concerns_enter, entering]
  change outcome ((body _).andThen _) _ = _
  rw [outcome_andThen (concerns _)]
  rcases outcome (body (decide (guard = .idle))) .busy with ⟨result, last⟩
  cases guard <;> cases last <;> rfl

end

/-- A program over one guard. It goes on by whether it was let in, and catches what is raised only where it says so. -/
inductive Routine where
  | finish
  | tryEnter (rest : Bool → Routine)
  | leave (rest : Routine)
  | raise (failure : Failure)
  | attempt (body : Bool → Routine) (rest : Routine)
  | caught (body rest : Routine)

/-- An attempt that a routine comes to: whether it stands inside one that was entered, the guard when it starts,
whether it is entered, and what its body and the attempt itself end in, with the guard then. -/
structure Visit where
  inside : Bool
  start : Guard
  entered : Bool
  body : Except Failure Unit × Guard
  ended : Except Failure Unit × Guard

/-- Entering takes an idle guard; leaving what was entered makes it idle, and can only fail if it is so already;
and leaving what was not entered does nothing. -/
structure Visit.IsLawful (visit : Visit) : Prop where
  entered : visit.entered = true ↔ visit.start = .idle
  released : visit.entered = true → visit.ended.2 = .idle
  raised : visit.entered = true → visit.body.2 = .idle → visit.ended.1 = .error idleFailure
  passed : visit.entered = true → visit.body.2 ≠ .idle → visit.ended.1 = visit.body.1
  spared : visit.entered = false → visit.ended = visit.body

/-- The guard is given back as it was, nobody enters twice, and leaving does not fail. -/
structure Visit.IsTame (visit : Visit) : Prop where
  restored : visit.ended.2 = visit.start
  refused : visit.inside = true → visit.entered = false
  unbroken : visit.ended.1 ≠ .error idleFailure

namespace Routine

/-- A routine as a job. -/
def job : Routine → Job Unit
  | .finish => pure ()
  | .tryEnter rest => do
    let entered : Bool ← Job.ask .enterGuard
    (rest entered).job
  | .leave rest => do
    Job.leaveGuard
    rest.job
  | .raise failure => .fail failure
  | .attempt body rest => do
    Job.guarded fun entered => (body entered).job
    rest.job
  | .caught body rest => body.job.andThen fun _ => rest.job

private theorem concerns_job (routine : Routine) : Concerns routine.job := by
  induction routine with
  | finish => exact concerns_done _
  | tryEnter rest ih => exact concerns_enter.bind ih
  | leave rest ih => exact concerns_leaveGuard.bind fun _ => ih
  | raise failure => exact concerns_done _
  | attempt body rest body_ih rest_ih => exact (concerns_guarded body_ih).bind fun _ => rest_ih
  | caught body rest body_ih rest_ih => exact body_ih.andThen fun _ => rest_ih

/-- The attempts that a routine comes to from a state of the guard. -/
def visits : Routine → Bool → Guard → List Visit
  | .finish, _, _ => []
  | .tryEnter rest, inside, guard => (rest guard.tryEnter.1).visits inside guard.tryEnter.2
  | .leave rest, inside, guard =>
    match outcome Job.leaveGuard guard with
    | (.ok _, last) => rest.visits inside last
    | (.error _, _) => []
  | .raise _, _, _ => []
  | .attempt body rest, inside, guard =>
    let (entered, within) := guard.tryEnter
    let ended := outcome (Job.guarded fun entered => (body entered).job) guard
    ⟨inside, guard, entered, outcome (body entered).job within, ended⟩ ::
      ((body entered).visits (inside || entered) within ++
        match ended with
        | (.ok _, last) => rest.visits inside last
        | (.error _, _) => [])
  | .caught body rest, inside, guard =>
    body.visits inside guard ++ rest.visits inside (outcome body.job guard).2

/-- A routine that leaves the guard only by ending attempts. -/
def IsUnleaving : Routine → Prop
  | .finish => True
  | .tryEnter rest => ∀ entered, (rest entered).IsUnleaving
  | .leave _ => False
  | .raise failure => failure ≠ idleFailure
  | .attempt body rest => (∀ entered, (body entered).IsUnleaving) ∧ rest.IsUnleaving
  | .caught body rest => body.IsUnleaving ∧ rest.IsUnleaving

private theorem lawful_attempt (body : Bool → Routine) (inside : Bool) (guard : Guard) :
    Visit.IsLawful ⟨inside, guard, guard.tryEnter.1, outcome (body guard.tryEnter.1).job guard.tryEnter.2,
      outcome (Job.guarded fun entered => (body entered).job) guard⟩ := by
  rw [outcome_guarded fun entered => (body entered).concerns_job]
  cases guard with
  | idle =>
    refine ⟨iff_of_true rfl rfl, fun _ => rfl, fun _ idle => ?_, fun _ busy => ?_, nofun⟩
    · exact if_pos idle
    · exact if_neg busy
  | busy => exact ⟨iff_of_false nofun nofun, nofun, nofun, nofun, fun _ => rfl⟩

private theorem lawful_visits (routine : Routine) (inside : Bool) (guard : Guard) :
    ∀ visit ∈ routine.visits inside guard, visit.IsLawful := by
  induction routine generalizing inside guard with
  | finish => exact List.forall_mem_nil _
  | tryEnter rest ih => exact ih _ _ _
  | leave rest ih =>
    unfold visits
    split
    · exact ih _ _
    · exact List.forall_mem_nil _
  | raise failure => exact List.forall_mem_nil _
  | attempt body rest body_ih rest_ih =>
    refine List.forall_mem_cons.mpr ⟨lawful_attempt body inside guard, List.forall_mem_append.mpr ⟨body_ih _ _ _, ?_⟩⟩
    split
    · exact rest_ih _ _
    · exact List.forall_mem_nil _
  | caught body rest body_ih rest_ih => exact List.forall_mem_append.mpr ⟨body_ih _ _, rest_ih _ _⟩

/-- What an attempt comes to whose body leaves the guard busy: the guard is as it was before. -/
theorem outcome_attempt {body : Bool → Routine}
    (busy : ∀ entered, (outcome (body entered).job .busy).2 = .busy) (guard : Guard) :
    outcome (Job.guarded fun entered => (body entered).job) guard =
      ((outcome (body (guard = .idle)).job .busy).1, guard) := by
  rw [outcome_guarded fun entered => (body entered).concerns_job]
  have kept := busy (guard = .idle)
  generalize outcome (body (guard = .idle)).job .busy = inner at kept
  obtain ⟨result, last⟩ := inner
  obtain rfl : last = .busy := kept
  cases guard <;> rfl

/-- A routine that leaves the guard only by ending attempts keeps a busy guard busy, and its leaving never fails. -/
theorem outcome_unleaving {routine : Routine} (unleaving : routine.IsUnleaving) (guard : Guard) :
    (guard = .busy → (outcome routine.job guard).2 = .busy) ∧ (outcome routine.job guard).1 ≠ .error idleFailure := by
  induction routine generalizing guard with
  | finish => exact ⟨id, nofun⟩
  | tryEnter rest ih =>
    have later := ih guard.tryEnter.1 (unleaving _) guard.tryEnter.2
    have same : outcome (tryEnter rest).job guard = outcome (rest guard.tryEnter.1).job guard.tryEnter.2 := rfl
    rw [same]
    cases guard
    · exact ⟨nofun, later.2⟩
    · exact later
  | leave rest ih => exact unleaving.elim
  | raise failure => exact ⟨id, fun same => unleaving (Except.error.inj same)⟩
  | attempt body rest body_ih rest_ih =>
    obtain ⟨within, after⟩ := unleaving
    have busy := fun entered => (body_ih entered (within entered) .busy).1 rfl
    have unbroken := (body_ih (guard = .idle) (within _) .busy).2
    have bound := outcome_bind (concerns_guarded fun entered => (body entered).concerns_job) (fun _ => rest.job) guard
    rw [outcome_attempt busy] at bound
    change outcome (attempt body rest).job guard = _ at bound
    rw [bound]
    cases ended : (outcome (body (guard = .idle)).job .busy).1 with
    | ok value => exact rest_ih after guard
    | error failure =>
      rw [ended] at unbroken
      exact ⟨id, unbroken⟩
  | caught body rest body_ih rest_ih =>
    have both : outcome (caught body rest).job guard = outcome rest.job (outcome body.job guard).2 :=
      outcome_andThen body.concerns_job _ guard
    rw [both]
    have later := rest_ih unleaving.2 (outcome body.job guard).2
    exact ⟨fun busy => later.1 ((body_ih unleaving.1 guard).1 busy), later.2⟩

private theorem tame_visits {routine : Routine} (unleaving : routine.IsUnleaving) {inside : Bool} {guard : Guard}
    (held : inside = true → guard = .busy) : ∀ visit ∈ routine.visits inside guard, visit.IsTame := by
  -- Inside an attempt that was entered the guard stays busy, so whatever is attempted there is refused.
  induction routine generalizing inside guard with
  | finish => exact List.forall_mem_nil _
  | tryEnter rest ih =>
    apply ih _ (unleaving _)
    intro within
    cases held within
    rfl
  | leave rest ih => exact unleaving.elim
  | raise failure => exact List.forall_mem_nil _
  | attempt body rest body_ih rest_ih =>
    obtain ⟨within, after⟩ := unleaving
    have busy := fun entered => (outcome_unleaving (within entered) .busy).1 rfl
    have ended := outcome_attempt busy guard
    refine List.forall_mem_cons.mpr ⟨?_, List.forall_mem_append.mpr ⟨?_, ?_⟩⟩
    · refine ⟨by rw [ended], fun already => ?_, ?_⟩
      · cases held already
        rfl
      · rw [ended]
        exact (outcome_unleaving (within _) .busy).2
    · apply body_ih _ (within _)
      intro _
      cases guard <;> rfl
    · rw [ended]
      split
      next last same =>
        obtain rfl : guard = last := congrArg Prod.snd same
        exact rest_ih after held
      next => exact List.forall_mem_nil _
  | caught body rest body_ih rest_ih =>
    refine List.forall_mem_append.mpr ⟨body_ih unleaving.1 held, rest_ih unleaving.2 fun within => ?_⟩
    exact (outcome_unleaving unleaving.1 guard).1 (held within)

/-- What an interruption of a script raises, given what a failing step does. -/
def raised (failure : Failure) : Option Interruption → Except Failure Unit
  | none => .ok ()
  | some .failed => .error failure
  | some .leftWhileIdle => .error idleFailure

mutual

/-- A step of a script, as a routine that goes on with another. A script catches what comes out of its attempts. -/
def ofStep (failure : Failure) : Step → Routine → Routine
  | .tryEnter, rest => .tryEnter fun _ => rest
  | .leave, rest => .caught (.leave .finish) rest
  | .fail, _ => .raise failure
  | .attempt body, rest => .caught (.attempt (fun _ => ofSteps failure body) .finish) rest

/-- The steps of a script as a routine. -/
def ofSteps (failure : Failure) : List Step → Routine
  | [] => .finish
  | step :: rest => ofStep failure step (ofSteps failure rest)

end

/-- Whether an attempt was entered, as a script shows it. -/
def entered? : Observation → Option Bool
  | .attempted success _ => some success
  | _ => none

variable (failure : Failure)

mutual

private theorem observed_step (step : Step) (rest : Routine) (inside : Bool) (guard : Guard) :
    let (shown, interruption, last) := step.observe guard
    outcome (ofStep failure step rest).job guard =
        (if interruption.isSome then (raised failure interruption, last) else outcome rest.job last) ∧
      ((ofStep failure step rest).visits inside guard).map (·.entered) =
        shown.filterMap entered? ++ if interruption.isSome then [] else (rest.visits inside last).map (·.entered) := by
  cases step with
  | tryEnter => exact ⟨rfl, rfl⟩
  | leave => cases guard <;> exact ⟨rfl, rfl⟩
  | fail => exact ⟨rfl, rfl⟩
  | attempt body =>
    obtain ⟨ended, seen⟩ := observed_steps body (inside || guard.tryEnter.1) guard.tryEnter.2
    rcases shows : observeAll body guard.tryEnter.2 with ⟨shown, interruption, inner⟩
    rw [shows] at ended seen
    have closed : (outcome (Job.guarded fun _ => (ofSteps failure body).job) guard).2 =
        (endAttempt guard.tryEnter.1 interruption inner).2 := by
      rw [outcome_guarded fun _ => (ofSteps failure body).concerns_job]
      cases guard
      · rw [show outcome (ofSteps failure body).job .busy = _ from ended]
        cases inner <;> rfl
      · rw [show outcome (ofSteps failure body).job .busy = _ from ended]
        rfl
    have after : (outcome (attempt (fun _ => ofSteps failure body) finish).job guard).2 =
        (outcome (Job.guarded fun _ => (ofSteps failure body).job) guard).2 := by
      change (outcome (_ >>= _) guard).2 = _
      rw [outcome_bind (concerns_guarded fun _ => (ofSteps failure body).concerns_job)]
      rcases outcome (Job.guarded fun _ => (ofSteps failure body).job) guard with ⟨_ | _, last⟩ <;> rfl
    simp only [Step.observe, shows, ofStep, visits]
    constructor
    · change outcome (Program.andThen _ _) guard = _
      rw [outcome_andThen (concerns_job _), after, closed]
      rfl
    · rw [after, closed]
      have nothing : ∀ ended : Except Failure Unit × Guard,
          (match ended with
            | (.ok _, _) => ([] : List Visit)
            | (.error _, _) => []) = [] := by
        rintro ⟨_ | _, _⟩ <;> rfl
      rw [nothing]
      simp [seen, entered?]

/-- A script shows what its routine comes to: the same attempts are entered, and it ends alike. -/
theorem observed_steps (steps : List Step) (inside : Bool) (guard : Guard) :
    let (shown, interruption, last) := observeAll steps guard
    outcome (ofSteps failure steps).job guard = (raised failure interruption, last) ∧
      ((ofSteps failure steps).visits inside guard).map (·.entered) = shown.filterMap entered? := by
  cases steps with
  | nil => exact ⟨rfl, rfl⟩
  | cons step rest =>
    have first := observed_step step (ofSteps failure rest) inside guard
    rcases shows : step.observe guard with ⟨shown, interruption, last⟩
    rw [shows] at first
    simp only [observeAll, shows, ofSteps]
    cases interruption with
    | some interruption => simpa using first
    | none =>
      have later := observed_steps rest inside last
      rcases more : observeAll rest last with ⟨others, interruption, final⟩
      rw [more] at later
      simpa [later.1, later.2] using first

end

/-- Every attempt of every routine is lawful; those of a routine that leaves the guard only by ending attempts are
tame as well. The guard alone decides what a routine comes to, and is all that it changes. -/
theorem attempts (routine : Routine) (start : Guard) :
    (∀ visit ∈ routine.visits false start, visit.IsLawful) ∧
      (routine.IsUnleaving →
        (∀ visit ∈ routine.visits false start, visit.IsTame) ∧
          ∀ world : World, world.guard = start → (world.run routine.job).1 ≠ .error idleFailure) ∧
      ∀ world : World, world.guard = start →
        world.run routine.job = ((outcome routine.job start).1, { world with guard := (outcome routine.job start).2 }) := by
  refine ⟨routine.lawful_visits false start, fun unleaving => ⟨tame_visits unleaving nofun, ?_⟩, ?_⟩
  · rintro world rfl
    rw [routine.concerns_job world]
    exact (outcome_unleaving unleaving world.guard).2
  · rintro world rfl
    exact routine.concerns_job world

end Routine

end Guard

end ElasticEndpoint
