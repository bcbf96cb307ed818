import ElasticEndpoint.Proofs.PrintedProblems
import ElasticEndpoint.Proofs.RepeatedSyncs

/-!
Reported problems. A command that meets problems prints them one after another and ends with the exit code for what
went wrong. Whatever surroundings the problems come from, each of them is on the screen with all of its words if no
markup is in them, and not otherwise.
-/

namespace ElasticEndpoint.CommandLine

open Text (visible IsSteady)
open Session (printProblem shown)

namespace Session

variable {α β : Type} {steps rest : List Step}

private theorem ends_job_of {job : Job α} {history : List Act} {result : Except Problem α}
    (ended : job.Ends history (result.mapError .problem)) : (Session.job job).Ends (history.map step) (.ok result) := by
  induction job generalizing history with
  | done last =>
    obtain ⟨rfl, rfl⟩ := Program.ends_done.mp ended
    cases result <;> exact .done _
  | ask request next ih =>
    obtain ⟨reply, later, rfl, followed⟩ := Program.ends_ask.mp ended
    have asked : (Session.job (next reply)).Ends (later.map step) (.ok result) := ih reply followed
    exact .ask asked

private theorem ends_passed {session : Session α} {next : α → Session β} {value : α} {result : Except Ending β}
    (ended : session.Ends steps (.ok value)) (later : (next value).Ends rest result) :
    (session >>= next).Ends (steps ++ rest) result :=
  Program.ends_bind.mpr (.inr ⟨value, steps, rest, rfl, ended, later⟩)

private theorem ends_failed {session : Session α} {next : α → Session β} {failure : Ending}
    (ended : session.Ends steps (.error failure)) : (session >>= next).Ends steps (.error failure) :=
  Program.ends_bind.mpr (.inl ⟨failure, rfl, ended⟩)

/-- A session that ends with an exit code after something. -/
theorem ends_exit {session : Session α} {code : Nat} {value : α} (ended : session.Ends steps (.ok value)) :
    (session >>= fun _ => (exit code : Session β)).Ends steps (.error (.exit code)) := by
  have stopped : (exit code : Session β).Ends [] (.error (.exit code)) := .done _
  exact List.append_nil steps ▸ ends_passed ended stopped

end Session

open Session (ends_job_of ends_passed ends_failed ends_exit)

/-- Steps that print problems one after another, each with everything that can be seen of its words. -/
inductive Reports : List Problem → List Step → Prop where
  | nil : Reports [] []
  | cons {problem rest first steps} (printed : (printProblem problem).Ends first (.ok ()))
      (faithful : (visible problem.words).Sublist (visible (shown first))) (others : Reports rest steps) :
      Reports (problem :: rest) (first ++ steps)

/-- A command has met problems by the end of some steps: the reservation cannot be looked up, no key is there for
the passes, or the report of a sync has problems. -/
inductive Meets (limits : Limits) : Command → List Step → List Problem → Prop where
  | status {file port settings key problem start asked history}
      (read : (readSettings file).Ends start (.ok settings)) (keyed : (keyFor settings).Ends asked (.ok (some key)))
      (failed : ((clientFor settings key limits.pages).connect
        (Resolver.resolve settings.projectId [settings.eipTag])).Ends history (.error (.problem problem))) :
      Meets limits (.status file port) (start ++ asked ++ history.map Session.step) [problem]
  | unkeyed {file mode settings start entered asked} (read : (readSettings file).Ends start (.ok settings))
      (inside : enterCluster.Ends entered (.ok ())) (keyed : (keyFor settings).Ends asked (.ok none)) :
      Meets limits (.reconcile file mode) (start ++ entered ++ asked) [.noKey]
  | reconcile {file mode settings client report start history}
      (prepared : (prepare limits.pages file).Ends start (.ok (settings, client)))
      (synced : (client.connect (Sync.run settings mode)).Ends history (.ok report)) (met : report.problems ≠ []) :
      Meets limits (.reconcile file mode) (start ++ history.map Session.step) report.problems

/-- After some steps a command reports problems and ends with the exit code for what went wrong; a table may stand
above them. -/
def Reported (limits : Limits) (command : Command) (before : List Step) (problems : List Problem) : Prop :=
  ∃ table steps, (command.carryOut limits).Ends (before ++ table ++ steps) (.error (.exit 1)) ∧ Reports problems steps

variable {limits : Limits} {command : Command} {before steps : List Step} {problems : List Problem}

theorem Reports.clear (reports : Reports problems steps) : ∀ problem ∈ problems, problem.IsClear := by
  induction reports with
  | nil => exact List.forall_mem_nil _
  | cons printed faithful _ ih => exact List.forall_mem_cons.mpr ⟨Session.clear_of_printed printed faithful, ih⟩

private theorem Reports.of_clear (clear : ∀ problem ∈ problems, problem.IsClear ∧ IsSteady problem.words) :
    ∃ steps, Reports problems steps := by
  induction problems with
  | nil => exact ⟨[], .nil⟩
  | cons problem rest ih =>
    obtain ⟨⟨legible, steady⟩, others⟩ := List.forall_mem_cons.mp clear
    obtain ⟨first, printed, faithful⟩ := Session.printed_of_clear legible steady
    obtain ⟨steps, reports⟩ := ih others
    exact ⟨first ++ steps, .cons printed faithful reports⟩

theorem Reports.ends (reports : Reports problems steps) : (printProblems problems).Ends steps (.ok ()) := by
  induction reports with
  | nil => exact .done _
  | cons printed _ _ ih => exact ends_passed printed ih

/-- Every report has a table that can be shown. -/
theorem reportTable_shown (report : SyncReport) : ∃ text, (reportTable report).printed = .ok text := by
  have shows : (reportTable report).printed.toBool = true := by
    obtain ⟨service, node, problems⟩ := report
    have same : reportTable ⟨service, node, problems⟩ = reportTable ⟨service, node, []⟩ := rfl
    rw [same]
    rcases service with _ | (_ | _ | _) <;> rcases node with _ | (_ | _ | _ | _) <;> decide +kernel
  cases shown : (reportTable report).printed with
  | error fault =>
    rw [shown] at shows
    cases shows
  | ok text => exact ⟨text, rfl⟩

private theorem ends_valueOrExit {α : Type} {job : Job α} {history : List Act} {problem : Problem}
    (failed : job.Ends history (.error (.problem problem))) (printed : (printProblem problem).Ends steps (.ok ())) :
    (valueOrExit job).Ends (history.map Session.step ++ steps) (.error (.exit 1)) := by
  have ran : (Session.job job).Ends (history.map Session.step) (.ok (.error problem)) := ends_job_of failed
  exact ends_passed ran (ends_exit printed)

private theorem ends_synced {settings : Settings} {client : Metal.Client} {mode : ServicePass.Mode} {history : List Act}
    {report : SyncReport} (synced : (client.connect (Sync.run settings mode)).Ends history (.ok report)) :
    (sync settings client mode).Ends (history.map Session.step) (.ok report) := by
  have ran : (Session.job (client.connect (Sync.run settings mode))).Ends (history.map Session.step) (.ok (.ok report)) :=
    ends_job_of synced
  have value : (pure report : Session SyncReport).Ends [] (.ok report) := .done _
  have passed : (sync settings client mode).Ends (history.map Session.step ++ []) (.ok report) := ends_passed ran value
  rwa [List.append_nil] at passed

/-- Problems whose printing is known to go well are reported. -/
theorem Meets.reported (meets : Meets limits command before problems) (reports : Reports problems steps) :
    Reported limits command before problems := by
  cases meets with
  | @status file port settings key problem start asked history read keyed failed =>
    cases reports with
    | @cons _ _ first others printed faithful none =>
      cases none
      refine ⟨[], first ++ [], ?_, .cons printed faithful .nil⟩
      rw [List.append_nil, List.append_nil, List.append_assoc, List.append_assoc]
      exact ends_passed read (ends_passed keyed (ends_failed (ends_valueOrExit failed printed)))
  | @unkeyed file mode settings start entered asked read inside keyed =>
    cases reports with
    | @cons _ _ first others printed faithful none =>
      cases none
      refine ⟨[], first ++ [], ?_, .cons printed faithful .nil⟩
      rw [List.append_nil, List.append_nil, List.append_assoc, List.append_assoc]
      exact ends_failed (ends_passed read (ends_passed inside (ends_passed keyed (ends_exit printed))))
  | @reconcile file mode settings client report start history prepared synced met =>
    obtain ⟨text, table⟩ := reportTable_shown report
    have put : (Session.put (reportTable report).printed).Ends [⟨.print text, ()⟩] (.ok ()) := by
      rw [table]
      exact .ask (.done _)
    have bad : report.isOk = false := by simpa [SyncReport.isOk] using met
    refine ⟨[⟨.print text, ()⟩], steps, ?_, reports⟩
    rw [List.append_assoc, List.append_assoc]
    refine ends_passed prepared (ends_passed (ends_synced synced) (ends_passed put ?_))
    rw [bad]
    exact ends_exit reports.ends

/-- Problems that are reported are clear, and clear problems are reported if they are steady. -/
theorem reported_clear (meets : Meets limits command before problems) :
    (Reported limits command before problems → ∀ problem ∈ problems, problem.IsClear) ∧
      ((∀ problem ∈ problems, problem.IsClear ∧ IsSteady problem.words) →
        Reported limits command before problems) := by
  constructor
  · rintro ⟨table, steps, -, reports⟩
    exact reports.clear
  · intro clear
    obtain ⟨steps, reports⟩ := Reports.of_clear clear
    exact meets.reported reports

private theorem ends_readSettings {file : Files.Path} {text : String} {settings : Settings}
    (loads : Settings.load text = .ok settings) :
    (readSettings file).Ends [⟨.pathExists file, .ok true⟩, ⟨.readFile file, .ok text⟩] (.ok settings) := by
  have there : (Session.askFile (Session.ask (.pathExists file))).Ends [⟨.pathExists file, .ok true⟩] (.ok true) :=
    .ask (.done _)
  have content : (Session.ask (.readFile file)).Ends [⟨.readFile file, .ok text⟩] (.ok (.ok text)) := .ask (.done _)
  refine ends_passed there (ends_passed content ?_)
  dsimp only
  rw [loads]
  exact .done _

def foundSettings : Settings := { plainSettings with apiServerPort := 0 }

def looking : Command := .status (.ofText "config") 0

def lookup : Job (Option Reservation) :=
  (clientFor foundSettings "key" 40).connect (Resolver.resolve foundSettings.projectId [foundSettings.eipTag])

/-- The problem of a listing that is refused. -/
def refusal (body : String) : Problem := .metal "Metal API GET /projects/p/ips returned HTTP 500" (some body) (some 500)

def isProblem {α : Type} (problem : Problem) : Except Failure α → Bool
  | .error (.problem met) => met == problem
  | _ => false

/-- The steps of looking at the elastic address, up to the answer to the listing. -/
def lookingSteps (body : String) : List Step :=
  [⟨.pathExists (.ofText "config"), .ok true⟩, ⟨.readFile (.ofText "config"), .ok "project_id: p\neip_tag: t\n"⟩] ++
    [⟨.environmentKey, some "key"⟩] ++ (lookup.history World.answer (listing 500 body)).map Session.step

private theorem meets_refusal {body : String} (refuses : isProblem (refusal body) ((listing 500 body).run lookup).1 = true) :
    Meets ⟨40, 9⟩ looking (lookingSteps body) [refusal body] := by
  have loads : Settings.load "project_id: p\neip_tag: t\n" = .ok foundSettings := by
    have found : (Settings.load "project_id: p\neip_tag: t\n").toOption = some foundSettings := by decide +kernel
    cases loaded : Settings.load "project_id: p\neip_tag: t\n" with
    | error fault =>
      rw [loaded] at found
      cases found
    | ok settings =>
      rw [loaded] at found
      exact congrArg _ (Option.some.inj found)
  have failed : lookup.Ends (lookup.history World.answer (listing 500 body)) (.error (.problem (refusal body))) := by
    have ended := Program.ends_history World.answer lookup (listing 500 body)
    change lookup.Ends _ ((listing 500 body).run lookup).1 at ended
    rcases result : ((listing 500 body).run lookup).1 with (problem | crash) | reservation
    · rw [result] at refuses ended
      rwa [beq_iff_eq.mp refuses] at ended
    · rw [result] at refuses
      cases refuses
    · rw [result] at refuses
      cases refuses
  exact .status (ends_readSettings loads) (.ask (.done _)) failed

/-- A refused listing is reported with what the answer says. -/
theorem reported_refusal :
    Meets ⟨40, 9⟩ looking (lookingSteps "oops") [refusal "oops"] ∧
      Reported ⟨40, 9⟩ looking (lookingSteps "oops") [refusal "oops"] := by
  have meets : Meets ⟨40, 9⟩ looking (lookingSteps "oops") [refusal "oops"] := meets_refusal (by decide +kernel)
  have steady : IsSteady (refusal "oops").words := .of_all (by decide +kernel)
  have clear : (refusal "oops").IsClear := by
    refine ⟨⟨⟨?_, ?_⟩, ?_⟩, ⟨⟨?_, ?_⟩, ?_⟩⟩
    all_goals decide +kernel
  exact ⟨meets, (reported_clear meets).2 (List.forall_mem_singleton.mpr ⟨clear, steady⟩)⟩

def isUnshowable {α : Type} : Except Ending α → Bool
  | .error (.unshowable _) => true
  | _ => false

/-- A refused listing whose answer begins with a tag is not reported: printing it ends the command. -/
theorem unreported_tag :
    Meets ⟨40, 9⟩ looking (lookingSteps "[/oops]") [refusal "[/oops]"] ∧
      (¬Reported ⟨40, 9⟩ looking (lookingSteps "[/oops]") [refusal "[/oops]"]) ∧
        ((waiting 500 "[/oops]").run (looking.carryOut ⟨40, 9⟩)).1 ≠ .error (.exit 1) := by
  refine ⟨meets_refusal (by decide +kernel), ?_, ?_⟩
  · rintro ⟨table, steps, -, reports⟩
    have clear := (reports.clear (refusal "[/oops]") List.mem_cons_self).details
    have tag := clear.untagged "/oops]".toList (by decide +kernel)
    cases tag
  · have unshown : isUnshowable ((waiting 500 "[/oops]").run (looking.carryOut ⟨40, 9⟩)).1 = true := by decide +kernel
    intro same
    rw [same] at unshown
    cases unshown

end ElasticEndpoint.CommandLine
