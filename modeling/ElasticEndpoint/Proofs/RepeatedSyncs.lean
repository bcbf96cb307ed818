import ElasticEndpoint.Proofs.SessionSteps
import ElasticEndpoint.Proofs.SyncSurvival
import ElasticEndpoint.Simulation.Host

/-!
Syncs in a row. With legible answers the command that repeats its syncs makes one for each pause, and ends as
interrupted with the first pause that is. It is over sooner once an answer is not legible.
-/

namespace ElasticEndpoint.CommandLine

open Session (acts pauses print IsIdle idle_ask idle_print)

variable {settings : Settings} {client : Metal.Client} {period : Int} {steps : List Step}

private theorem idle_logProblems {problems : List Problem} : (logProblems period problems).Idle := by
  induction problems with
  | nil => exact True.intro
  | cons problem problems ih => exact .bind (idle_ask rfl) fun _ => ih

private theorem ends_logProblems {problems : List Problem} {result : Except Ending Unit}
    (ended : (logProblems period problems).Ends steps result) : result = .ok () := by
  induction problems generalizing steps with
  | nil => exact (Program.ends_done.mp ended).2
  | cons problem problems ih =>
    obtain ⟨_, _, rfl, later⟩ := Program.ends_ask.mp ended
    exact ih later

/-- A sync takes the steps of its job, whose report or crash it ends in; a problem ends the session. -/
theorem ends_sync {mode : ServicePass.Mode} {result : Except Ending SyncReport}
    (ended : (sync settings client mode).Ends steps result) :
    ∃ history last rest, (client.connect (Sync.run settings mode)).Ends history last ∧
      steps = history.map Session.step ++ rest ∧
        match last with
        | .ok report => rest = [] ∧ result = .ok report
        | .error (.problem _) => ∃ ending, result = .error ending
        | .error (.crash crash) => rest = [] ∧ result = .error (.crash crash) := by
  unfold sync valueOrExit at ended
  rcases Program.ends_bind.mp ended with ⟨ending, rfl, failed⟩ | ⟨value, first, rest, rfl, given, later⟩
  · obtain ⟨history, last, done, rfl, same⟩ := Session.ends_job failed
    rcases last with (problem | crash) | report
    · cases same
    · cases same
      exact ⟨history, _, [], done, by simp, rfl, rfl⟩
    · cases same
  · obtain ⟨history, last, done, rfl, same⟩ := Session.ends_job given
    rcases last with (problem | crash) | report
    · cases same
      refine ⟨history, _, rest, done, rfl, ?_⟩
      rcases Program.ends_bind.mp later with ⟨ending, rfl, -⟩ | ⟨_, _, _, rfl, -, stopped⟩
      · exact ⟨ending, rfl⟩
      · exact ⟨_, (Program.ends_done.mp stopped).2⟩
    · cases same
    · cases same
      exact ⟨history, _, rest, done, rfl, Program.ends_done.mp later⟩

private theorem does_sync {mode : ServicePass.Mode} {report : SyncReport}
    (ended : (sync settings client mode).Ends steps (.ok report)) :
    Job.Does (client.connect (Sync.run settings mode)) (acts steps) (.ok report) ∧ pauses steps = [] := by
  obtain ⟨history, last, rest, done, rfl, same⟩ := ends_sync ended
  rcases last with (problem | crash) | report
  · obtain ⟨_, ⟨⟩⟩ := same
  · obtain ⟨-, ⟨⟩⟩ := same
  · obtain ⟨rfl, ⟨⟩⟩ := same
    rw [List.append_nil, Session.acts_steps, Session.pauses_steps]
    exact ⟨⟨history, done, rfl⟩, rfl⟩

private theorem reports_of_legible {mode : ServicePass.Mode} {result : Except Ending SyncReport}
    (ended : (sync settings client mode).Ends steps result) (sound : ∀ act ∈ acts steps, Act.IsSound act)
    (patient : steps.length < client.pageLimit) (legible : ∀ act ∈ acts steps, Act.IsLegible act) :
    ∃ report, result = .ok report := by
  obtain ⟨history, last, rest, done, rfl, same⟩ := ends_sync ended
  rw [Session.acts_append, Session.acts_steps, List.forall_mem_append] at sound legible
  rw [List.length_append, List.length_map] at patient
  have fewer := List.length_filter_le (!·.request.isLog) history
  obtain ⟨report, rfl⟩ := (Sync.report_iff_legible ⟨history, done, rfl⟩ sound.1 (by omega)).mpr legible.1
  exact ⟨report, same.2⟩

/-- Syncs in a row, so many of them at most. Each of them gives a report, whose problems are recorded, and a pause
follows. The row ends as interrupted with the first pause that does not last. -/
inductive Row (settings : Settings) (client : Metal.Client) (period : Int) :
    Nat → Nat → List Step → Except Ending Unit → Prop where
  | spent : Row settings client period 0 0 [] (.ok ())
  | stopped {left report synced noted closing} (whole : (sync settings client .sync).Ends synced (.ok report))
      (records : (logProblems period report.problems).Ends noted (.ok ())) (idle : IsIdle closing) :
      Row settings client period (left + 1) 1 (synced ++ (noted ++ ⟨.sleep period, false⟩ :: closing))
        (.error (.exit 130))
  | again {left count report synced noted rest result} (whole : (sync settings client .sync).Ends synced (.ok report))
      (records : (logProblems period report.problems).Ends noted (.ok ()))
      (others : Row settings client period left count rest result) :
      Row settings client period (left + 1) (count + 1) (synced ++ (noted ++ ⟨.sleep period, true⟩ :: rest)) result

private theorem pauses_round {report : SyncReport} {synced noted rest : List Step} {lasted : Bool}
    (whole : (sync settings client .sync).Ends synced (.ok report))
    (records : (logProblems period report.problems).Ends noted (.ok ())) :
    pauses (synced ++ (noted ++ ⟨.sleep period, lasted⟩ :: rest)) = lasted :: pauses rest := by
  rw [Session.pauses_append, Session.pauses_append, (does_sync whole).2, (idle_logProblems.isIdle records).pauses]
  rfl

theorem Row.interrupted {left count : Nat} {result : Except Ending Unit}
    (row : Row settings client period left count steps result) (interrupted : false ∈ pauses steps) :
    result = .error (.exit 130) := by
  induction row with
  | spent => cases interrupted
  | stopped => rfl
  | again whole records _ ih =>
    rw [pauses_round whole records] at interrupted
    exact ih ((List.mem_cons.mp interrupted).resolve_left nofun)

private theorem ends_farewell {result : Except Ending Unit}
    (ended : (print "\n[yellow]Stopped by user[/yellow]" >>= fun _ => (Session.exit 130 : Session Unit)).Ends
      steps result) :
    result = .error (.exit 130) := by
  have shown : (Console.printed "\n[yellow]Stopped by user[/yellow]").toBool = true := by decide +kernel
  unfold print at ended
  cases printed : Console.printed "\n[yellow]Stopped by user[/yellow]" with
  | error fault =>
    rw [printed] at shown
    cases shown
  | ok text =>
    rw [printed] at ended
    obtain ⟨_, rest, rfl, closed⟩ := Program.ends_ask.mp ended
    exact (Program.ends_done.mp closed).2

/-- Syncs with legible answers make a row of one for each pause. -/
theorem row_of_legible {left : Nat} {result : Except Ending Unit}
    (ended : (repeatSyncs settings client period left).Ends steps result) (sound : ∀ act ∈ acts steps, Act.IsSound act)
    (patient : steps.length < client.pageLimit) (legible : ∀ act ∈ acts steps, Act.IsLegible act) :
    Row settings client period left (pauses steps).length steps result := by
  -- Over the syncs that are left: what follows a pause that lasted is a row again.
  induction left generalizing steps with
  | zero =>
    obtain ⟨rfl, rfl⟩ := Program.ends_done.mp ended
    exact .spent
  | succ left ih =>
    unfold repeatSyncs at ended
    rcases Program.ends_bind.mp ended with ⟨ending, rfl, failed⟩ | ⟨report, synced, rest, rfl, whole, later⟩
    · obtain ⟨_, ⟨⟩⟩ := reports_of_legible failed sound patient legible
    rcases Program.ends_bind.mp later with ⟨ending, rfl, failed⟩ | ⟨_, noted, others, rfl, records, pausing⟩
    · cases ends_logProblems failed
    obtain ⟨lasted, closing, rfl, resumed⟩ := Program.ends_ask.mp pausing
    have later : acts (⟨.sleep period, lasted⟩ :: closing) = acts closing := rfl
    rw [Session.acts_append, Session.acts_append, later, List.forall_mem_append, List.forall_mem_append]
      at sound legible
    cases told : (show Bool from lasted) with
    | true =>
      obtain rfl : lasted = true := told
      have more : (repeatSyncs settings client period left).Ends closing result := resumed
      rw [pauses_round whole records, List.length_cons]
      exact .again whole records (ih more sound.2.2 (by grind) legible.2.2)
    | false =>
      obtain rfl : lasted = false := told
      have farewell : (print "\n[yellow]Stopped by user[/yellow]" >>= fun _ => (Session.exit 130 : Session Unit)).Ends
        closing result := resumed
      have idle : IsIdle closing := by
        refine Session.Idle.isIdle (.bind (idle_print _) fun _ => ?_) farewell
        exact True.intro
      obtain rfl := ends_farewell farewell
      rw [pauses_round whole records, idle.pauses]
      exact .stopped whole records idle

private theorem ends_keepReconciling {pageLimit passLimit : Nat} {file : Files.Path} {interval : Option Int}
    {result : Except Ending Unit} (ended : (keepReconciling pageLimit passLimit file interval).Ends steps result) :
    IsIdle steps ∨ ∃ settings client period start row, steps = start ++ row ∧ IsIdle start ∧
      client.pageLimit = pageLimit ∧ (repeatSyncs settings client period passLimit).Ends row result := by
  unfold keepReconciling at ended
  rcases (idle_ask rfl).passed ended with idle | ⟨_, lowered, rest, rfl, -, first, later⟩
  · exact .inl idle
  rcases (idle_prepare ..).passed later with idle | ⟨⟨settings, client⟩, ready, rest, rfl, prepared, second, later⟩
  · exact .inl (first.append idle)
  dsimp only at later
  split at later
  · obtain ⟨rfl, -⟩ := Program.ends_done.mp later
    exact .inl (first.append (second.append ⟨rfl, rfl⟩))
  rcases (idle_print _).passed later with idle | ⟨_, start, row, rfl, -, third, repeated⟩
  · exact .inl (first.append (second.append idle))
  · exact .inr ⟨settings, client, _, lowered ++ (ready ++ start), row, by simp, first.append (second.append third),
      prepared_limit prepared, repeated⟩

/-- With legible answers, a command that reconciles again and again makes one sync for each pause, unless it ends
before the first. -/
theorem keepReconciling_of_legible {pageLimit passLimit : Nat} {file : Files.Path} {interval : Option Int}
    {result : Except Ending Unit} (ended : (keepReconciling pageLimit passLimit file interval).Ends steps result)
    (sound : ∀ act ∈ acts steps, Act.IsSound act) (patient : steps.length < pageLimit)
    (legible : ∀ act ∈ acts steps, Act.IsLegible act) :
    (IsIdle steps ∨ ∃ settings client period start row, steps = start ++ row ∧ IsIdle start ∧
      Row settings client period passLimit (pauses steps).length row result) ∧
      (false ∈ pauses steps → result = .error (.exit 130)) := by
  rcases ends_keepReconciling ended with idle | ⟨settings, client, period, start, row, rfl, idle, limit, repeated⟩
  · refine ⟨.inl idle, fun interrupted => ?_⟩
    rw [idle.pauses] at interrupted
    cases interrupted
  · rw [Session.acts_append, List.forall_mem_append] at sound legible
    rw [List.length_append, ← limit] at patient
    rw [Session.pauses_append, idle.pauses, List.nil_append]
    have whole := row_of_legible repeated sound.2 (by omega) legible.2
    exact ⟨.inr ⟨settings, client, period, start, row, rfl, idle, whole⟩, whole.interrupted⟩

/-- A sync comes to its report exactly if every answer is legible. As long as they are, the command that repeats it
makes one sync for each pause, and ends as interrupted with the first pause that is. A listing without end is given up
at the page limit, so a run is one that is shorter than that. -/
theorem survives_legible {settings : Settings} {mode : ServicePass.Mode} {client : Metal.Client} {limits : Limits}
    {file : Files.Path} {interval : Option Int} :
    (∀ {acts result}, Job.Does (client.connect (Sync.run settings mode)) acts result →
      (∀ act ∈ acts, Act.IsSound act) → acts.length < client.pageLimit →
        ((∃ report, result = .ok report ∧ Sync.Collects settings mode client acts report) ↔
          ∀ act ∈ acts, Act.IsLegible act)) ∧
    ∀ {steps result}, ((Command.run file interval).carryOut limits).Ends steps result →
      (∀ act ∈ acts steps, Act.IsSound act) → steps.length < limits.pages → (∀ act ∈ acts steps, Act.IsLegible act) →
        (IsIdle steps ∨ ∃ settings client period start row, steps = start ++ row ∧ IsIdle start ∧
          Row settings client period limits.passes (pauses steps).length row result) ∧
        (false ∈ pauses steps → result = .error (.exit 130)) := by
  constructor
  · intro acts result done sound patient
    rw [← Sync.report_iff_legible done sound patient]
    constructor
    · rintro ⟨report, same, -⟩
      exact ⟨report, same⟩
    · rintro ⟨report, rfl⟩
      exact ⟨report, rfl, Sync.collects_of_done done⟩
  · intro steps result ended sound patient legible
    exact keepReconciling_of_legible ended sound patient legible

/-- An act in an empty cluster, with an interface whose answers have no content. -/
def isBare : Act → Bool
  | ⟨.http _, .answered status _⟩ => status == 204
  | ⟨.http _, _⟩ => false
  | ⟨.cluster .listServices _, .ok services⟩ => services.isEmpty
  | ⟨.cluster .listNodes _, .ok nodes⟩ => nodes.isEmpty
  | ⟨.cluster .., _⟩ => false
  | ⟨.leaveGuard, left⟩ => left
  | _ => true

private theorem sound_of_bare {act : Act} (bare : isBare act = true) : act.IsSound := by
  obtain ⟨request, reply⟩ := act
  cases request with
  | cluster call timeout =>
    rcases reply with fault | given
    all_goals cases call
    all_goals try cases bare
    all_goals
      obtain rfl := List.isEmpty_iff.mp bare
      exact nofun
  | http request =>
    cases reply with
    | answered => trivial
    | _ => cases bare
  | leaveGuard => exact bare
  | _ => trivial

private theorem legible_of_bare {act : Act} (bare : isBare act = true) : act.IsLegible := by
  obtain ⟨request, reply⟩ := act
  cases request with
  | http request =>
    cases reply with
    | answered status body => exact .inr (.inr (.inl (by simpa [isBare] using bare)))
    | _ => cases bare
  | _ => trivial

def plainSettings : Settings :=
  ⟨"p", "t", none, Settings.defaultApiUrl, 6443, Settings.defaultProbeTimeout, Settings.defaultApiTimeout, 30,
    .unhealthy⟩

def plainSync : Job SyncReport :=
  (clientFor plainSettings "key" 40).connect (Sync.run plainSettings .sync)

def repeating : Session Unit := (Command.run (.ofText "config") none).carryOut ⟨40, 9⟩

/-- An empty cluster, with an interface that answers every listing alike. -/
def listing (status : Int) (body : String) : World where
  script := .byTarget [("GET https://api.equinix.com/metal/v1/projects/p/ips", [.answered status (body.toUTF8.toList)])]
  ports := .configured (.number 6443)

/-- A host with such an interface, where whoever waits does so twice. -/
def waiting (status : Int) (body : String) : Host where
  world := listing status body
  disk := { files := [(["config"], "project_id: p\neip_tag: t\n")] }
  key := some "key"
  access := .inside
  patience := 2

/-- Listings without content are survived, and the second pause is interrupted. -/
theorem survives_without_content :
    (∃ report, ((listing 204 "").run plainSync).1 = .ok report) ∧
      ((waiting 204 "").run repeating).1 = .error (.exit 130) := by
  have survived :=
    @survives_legible plainSettings .sync (clientFor plainSettings "key" 40) ⟨40, 9⟩ (.ofText "config") none
  constructor
  · have bare : ((listing 204 "").acts plainSync).all isBare = true := by decide +kernel
    have short : ((listing 204 "").acts plainSync).length < 40 := by decide +kernel
    rw [List.all_eq_true] at bare
    have legible := fun act member => legible_of_bare (bare act member)
    obtain ⟨report, same, -⟩ := (survived.1 (World.does_acts (listing 204 "") plainSync)
      (fun act member => sound_of_bare (bare act member)) short).mpr legible
    exact ⟨report, same⟩
  · have bare : (acts (repeating.history Host.answer (waiting 204 ""))).all isBare = true := by decide +kernel
    have short : (repeating.history Host.answer (waiting 204 "")).length < 40 := by decide +kernel
    have paused : pauses (repeating.history Host.answer (waiting 204 "")) = [true, false] := by decide +kernel
    rw [List.all_eq_true] at bare
    rw [Host.run_unbroken rfl]
    have legible := fun act member => legible_of_bare (bare act member)
    refine (survived.2 (Program.ends_history Host.answer repeating (waiting 204 ""))
      (fun act member => sound_of_bare (bare act member)) short legible).2 ?_
    rw [paused]
    decide

def lacking : String := "\x7b\"ip_addresses\": [\x7b\"id\": \"r\"\x7d]\x7d"

def hasCrashed {α : Type} : Except Ending α → Bool
  | .error (.crash _) => true
  | _ => false

/-- A listed reservation that lacks its address ends the sync without a report, and the command with it. -/
theorem crashes_lacking_address :
    (¬∃ report, ((listing 200 lacking).run plainSync).1 = .ok report) ∧
      ((waiting 200 lacking).run repeating).1 ≠ .error (.exit 130) := by
  constructor
  · have crashed : ((listing 200 lacking).run plainSync).1.toBool = false := by decide +kernel
    rintro ⟨report, same⟩
    rw [same] at crashed
    cases crashed
  · have crashed : hasCrashed ((waiting 200 lacking).run repeating).1 = true := by decide +kernel
    intro same
    rw [same] at crashed
    cases crashed

end ElasticEndpoint.CommandLine
