import ElasticEndpoint.Proofs.Quiet
import ElasticEndpoint.CommandLine.Work

/-!
Steps of sessions. Among the exchanges of a session are the acts of its jobs and its pauses. A session that runs
a job takes the steps of the job; one that only reads its settings and prints is idle.
-/

namespace ElasticEndpoint

namespace CommandLine

abbrev Step := Exchange Request.Reply

namespace Session

def step (act : Act) : Step := ⟨.job act.request, act.reply⟩

def acts (steps : List Step) : List Act :=
  steps.filterMap fun
    | ⟨.job request, reply⟩ => if request.isLog then none else some ⟨request, reply⟩
    | _ => none

/-- For every pause of a session, whether it lasted. -/
def pauses (steps : List Step) : List Bool :=
  steps.filterMap fun
    | ⟨.sleep _, lasted⟩ => some lasted
    | _ => none

@[simp]
theorem acts_append (first rest : List Step) : acts (first ++ rest) = acts first ++ acts rest := List.filterMap_append

@[simp]
theorem pauses_append (first rest : List Step) : pauses (first ++ rest) = pauses first ++ pauses rest :=
  List.filterMap_append

theorem acts_steps (history : List Act) : acts (history.map step) = history.filter (!·.request.isLog) := by
  induction history with
  | nil => rfl
  | cons act history ih =>
    obtain ⟨request, reply⟩ := act
    unfold acts at ih ⊢
    cases logs : request.isLog <;> simp [step, logs, ih]

theorem pauses_steps (history : List Act) : pauses (history.map step) = [] := by
  induction history with
  | nil => rfl
  | cons act history ih => exact ih

/-- Steps without an act or a pause. -/
structure IsIdle (steps : List Step) : Prop where
  acts : acts steps = []
  pauses : pauses steps = []

theorem IsIdle.append {first rest : List Step} (idle : IsIdle first) (others : IsIdle rest) :
    IsIdle (first ++ rest) where
  acts := by rw [acts_append, idle.acts, others.acts, List.append_nil]
  pauses := by rw [pauses_append, idle.pauses, others.pauses, List.append_nil]

variable {α β : Type} {steps : List Step}

/-- A session that runs a job takes the steps of the job, and ends in a crash if the job does. -/
theorem ends_job {job : Job α} {result : Except Ending (Except Problem α)}
    (ended : (Session.job job).Ends steps result) :
    ∃ history last, job.Ends history last ∧ steps = history.map step ∧
      result = match last with
        | .ok value => .ok (.ok value)
        | .error (.problem problem) => .ok (.error problem)
        | .error (.crash crash) => .error (.crash crash) := by
  induction job generalizing steps with
  | done last =>
    refine ⟨[], last, .done last, ?_⟩
    rcases last with (problem | crash) | value
    all_goals exact Program.ends_done.mp ended
  | ask request next ih =>
    have asked : (Program.ask (Request.job request) fun reply => Session.job (next reply)).Ends steps result := ended
    obtain ⟨reply, rest, rfl, later⟩ := Program.ends_ask.mp asked
    obtain ⟨history, last, done, rfl, same⟩ := ih reply later
    exact ⟨⟨request, reply⟩ :: history, last, .ask done, rfl, same⟩

end Session

open Session (acts pauses print IsIdle)

def Request.isIdle : Request → Bool
  | .sleep _ => false
  | .job request => request.isLog
  | _ => true

namespace Session

/-- A session that has no act and no pause, whatever it is told. -/
abbrev Idle {α : Type} (session : Session α) : Prop := session.Uses (·.isIdle = true)

variable {α β : Type} {session : Session α} {steps : List Step}

theorem Idle.isIdle {result : Except Ending α} (idle : session.Idle) (ended : session.Ends steps result) :
    IsIdle steps := by
  have asked := idle.ends ended
  constructor
  all_goals
    apply List.filterMap_eq_nil_iff.mpr
    rintro ⟨request, reply⟩ member
    have still := asked _ member
    cases request with
    | sleep => cases still
    | job request => simp_all [Request.isIdle]
    | _ => rfl

theorem Idle.passed {next : α → Session β} {result : Except Ending β} (idle : session.Idle)
    (ended : (session >>= next).Ends steps result) :
    IsIdle steps ∨ ∃ value start rest, steps = start ++ rest ∧ session.Ends start (.ok value) ∧ IsIdle start ∧
      (next value).Ends rest result := by
  rcases Program.ends_bind.mp ended with ⟨_, rfl, failed⟩ | ⟨value, start, rest, rfl, first, later⟩
  · exact .inl (idle.isIdle failed)
  · exact .inr ⟨value, start, rest, rfl, first, idle.isIdle first, later⟩

theorem idle_ask {request : Request} (idle : request.isIdle = true) : (ask request).Idle := ⟨idle, fun _ => trivial⟩

section

variable {allowed : Request → Prop} (prints : ∀ text, allowed (.print text))

include prints

theorem uses_put (shown : Except Console.MarkupFault String) : (put shown).Uses allowed := by
  cases shown with
  | ok text => exact ⟨prints text, fun _ => trivial⟩
  | error fault => trivial

theorem uses_print (text : String) : (print text).Uses allowed := uses_put prints _

theorem uses_printProblem (problem : Problem) : (printProblem problem).Uses allowed := by
  refine .bind (uses_print prints _) fun _ => ?_
  split
  · trivial
  · split
    · trivial
    · exact uses_print prints _

end

theorem idle_print (text : String) : (print text).Idle := uses_print (fun _ => rfl) text

private theorem idle_printProblem (problem : Problem) : (printProblem problem).Idle := uses_printProblem (fun _ => rfl) problem

end Session

open Session (idle_ask idle_print idle_printProblem uses_print)

-- Texts are not to be shown here and now.
attribute [local irreducible] Session.print

section

variable {allowed : Request → Prop} (prints : ∀ text, allowed (.print text))

include prints

private theorem uses_refuseFile {α : Type} (file : Files.Path) (reason : String) :
    (refuseFile file reason : Session α).Uses allowed :=
  .bind (uses_print prints _) fun _ => True.intro

theorem uses_readSettings {file : Files.Path} (finds : allowed (.pathExists file)) (read : allowed (.readFile file)) :
    (readSettings file).Uses allowed := by
  refine .bind (.bind ⟨finds, fun _ => trivial⟩ fun found => ?_) fun isThere => ?_
  · split <;> exact True.intro
  · split
    · exact .bind (uses_print prints _) fun _ => .bind (uses_print prints _) fun _ => True.intro
    · refine .bind ⟨read, fun _ => trivial⟩ fun content => ?_
      split
      · exact uses_refuseFile prints ..
      · split
        · exact uses_refuseFile prints ..
        · exact True.intro

theorem uses_enterCluster (enters : allowed .enterCluster) (logs : ∀ record, allowed (.job (.log record))) :
    enterCluster.Uses allowed := by
  refine .bind ⟨enters, fun _ => trivial⟩ fun access => ?_
  split
  · exact ⟨logs _, fun _ => trivial⟩
  · exact ⟨logs _, fun _ => trivial⟩
  · exact .bind (uses_print prints _) fun _ => .bind (uses_print prints _) fun _ => True.intro

end

private theorem idle_readSettings (file : Files.Path) : (readSettings file).Idle := uses_readSettings (fun _ => rfl) rfl rfl

private theorem idle_enterCluster : enterCluster.Idle := uses_enterCluster (fun _ => rfl) rfl fun _ => rfl

private theorem idle_keyFor (settings : Settings) : (keyFor settings).Idle := .bind (idle_ask rfl) fun _ => True.intro

theorem idle_prepare (pageLimit : Nat) (file : Files.Path) : (prepare pageLimit file).Idle := by
  unfold prepare
  refine .bind (idle_readSettings file) fun settings => .bind idle_enterCluster fun _ => ?_
  refine .bind (idle_keyFor settings) fun key => ?_
  cases key with
  | none => exact .bind (idle_printProblem _) fun _ => True.intro
  | some key => exact .bind (idle_ask rfl) fun _ => True.intro

/-- The client of a command lists as many pages as the command may. -/
theorem prepared_limit {pageLimit : Nat} {file : Files.Path} {steps : List Step} {settings : Settings}
    {client : Metal.Client} (ended : (prepare pageLimit file).Ends steps (.ok (settings, client))) :
    client.pageLimit = pageLimit := by
  unfold prepare at ended
  rcases Program.ends_bind.mp ended with ⟨_, ⟨⟩, -⟩ | ⟨found, _, _, -, -, later⟩
  rcases Program.ends_bind.mp later with ⟨_, ⟨⟩, -⟩ | ⟨_, _, _, -, -, later⟩
  rcases Program.ends_bind.mp later with ⟨_, ⟨⟩, -⟩ | ⟨key, _, _, -, -, later⟩
  cases key with
  | none =>
    rcases Program.ends_bind.mp later with ⟨_, ⟨⟩, -⟩ | ⟨_, _, _, -, -, stopped⟩
    obtain ⟨-, ⟨⟩⟩ := Program.ends_done.mp stopped
  | some key =>
    obtain ⟨_, _, -, closed⟩ := Program.ends_ask.mp later
    obtain ⟨-, same⟩ := Program.ends_done.mp closed
    cases same
    rfl

end CommandLine

end ElasticEndpoint
