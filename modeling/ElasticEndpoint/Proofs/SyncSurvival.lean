import ElasticEndpoint.Proofs.ClientActs
import ElasticEndpoint.Proofs.CrashOrigin

/-!
What a sync survives of the cloud interface. Failed requests, refusals and malformed bodies become problems in
its report, and an answer that is well-formed but lacks a part ends it in a crash. So a sync comes to a report
exactly if every answer is legible.
-/

namespace ElasticEndpoint

open Metal (pageOf assignmentOf)
open Metal.Client (bodyOf replyOf callName Served)

/-- What the answer to a request of the client is read as. A request for a page carries its number. -/
def Http.Request.Reads (request : Http.Request) (answer : Value) : Prop :=
  match request.method, request.params.bind (·.lookup "page") with
  | .get, some (.number page) => ∃ read, pageOf page answer = .ok read
  | .post, _ => answer.truthy = true → ∃ assignment, assignmentOf answer = .ok assignment
  | _, _ => True

/-- An answer to the client that is refused, without content or no data at all, or gives data that can be read.
Health checks have no parameters, and their answers are not read. -/
def Act.IsLegible : Act → Prop
  | ⟨.http request, .answered status body⟩ =>
    request.method = .get ∧ request.params = none ∨ 400 ≤ status ∧ status < 600 ∨ status = 204 ∨ body = [] ∨
      match Json.parse (Text.Utf8.decode body).toList with
      | .ok answer => request.Reads answer
      | .error fault => fault ≠ .tooDeep
  | _ => True

namespace Metal.Client

variable {client : Client} {acts : List Act}

/-- What is made of an outcome is a crash exactly if the answer is not legible. -/
theorem crash_iff_illegible {α : Type} {request : Http.Request} {outcome : Http.Outcome} (name : String)
    {read : Value → Except Failure α} (sound : Act.IsSound (.http request outcome))
    (own : ¬(request.method = .get ∧ request.params = none))
    (reads : ∀ answer, (∃ crash, read answer = .error (.crash crash)) ↔ ¬request.Reads answer)
    (blank : request.Reads .null) :
    (∃ crash, (replyOf name outcome).bind read = .error (.crash crash)) ↔ ¬Act.IsLegible (.http request outcome) := by
  cases outcome with
  | broken => exact sound.elim
  | failed => exact iff_of_false (by rintro ⟨_, ⟨⟩⟩) (not_not_intro trivial)
  | answered status body =>
    have legible : Act.IsLegible (.http request (.answered status body)) ↔
        400 ≤ status ∧ status < 600 ∨ status = 204 ∨ body = [] ∨
          match Json.parse (Text.Utf8.decode body).toList with
          | .ok answer => request.Reads answer
          | .error fault => fault ≠ .tooDeep := or_iff_right own
    rw [legible]
    by_cases refused : 400 ≤ status ∧ status < 600
    · have failed : isOk status = false := by simp [isOk, refused]
      simp [replyOf, failed, refused, Except.bind]
    · have fine : isOk status = true := by
        simp [isOk]
        omega
      simp only [replyOf, fine, ↓reduceIte, bodyOf]
      rw [or_iff_right refused]
      by_cases none : status = 204 ∨ body = []
      · have empty : (status == 204 || body.isEmpty) = true := by simpa using none
        rw [if_pos empty]
        have read := (not_congr (reads .null)).mpr (not_not_intro blank)
        refine iff_of_false read (not_not_intro ?_)
        rcases none with same | same
        · exact .inl same
        · exact .inr (.inl same)
      · have full : ¬(status == 204 || body.isEmpty) = true := by simpa using none
        rw [if_neg full, or_iff_right fun same => none (.inl same), or_iff_right fun same => none (.inr same)]
        rcases Json.parse (Text.Utf8.decode body).toList with (_ | _ | _) | answer
        · simp [Except.bind]
        · simp [Except.bind]
        · simp [Except.bind]
        · exact reads answer

theorem given_crash_iff {device address : String} {outcome : Http.Outcome}
    (sound : Act.IsSound (.http (client.givingOf device address) outcome)) :
    (∃ crash, given device address outcome = .error (.crash crash)) ↔
      ¬Act.IsLegible (.http (client.givingOf device address) outcome) := by
  apply crash_iff_illegible _ sound
  · simp [requestOf]
  · intro answer
    have parsed := @assignmentIn_ok_iff device address answer
    change _ ↔ ¬(answer.truthy = true → ∃ assignment, assignmentOf answer = .ok assignment)
    rw [← parsed]
    cases assignmentIn device address answer <;> simp
  · exact nofun

theorem removed_crash_iff {assignmentId : String} {outcome : Http.Outcome}
    (sound : Act.IsSound (.http (client.removalOf assignmentId) outcome)) :
    (∃ crash, removed assignmentId outcome = .error (.crash crash)) ↔
      ¬Act.IsLegible (.http (client.removalOf assignmentId) outcome) := by
  have read : removed assignmentId outcome =
      (replyOf (callName .delete s!"/ips/{assignmentId}") outcome).bind fun _ => .ok () := by
    unfold removed
    cases replyOf (callName .delete s!"/ips/{assignmentId}") outcome <;> rfl
  rw [read]
  apply crash_iff_illegible _ sound
  · simp [requestOf]
  · intro answer
    exact iff_of_false (by simp) (not_not_intro trivial)
  · trivial

private theorem reads_page {project : String} {withAssignments : Bool} {page : Nat} {answer : Value} :
    (client.pageRequest project withAssignments page).Reads answer ↔ ∃ read, pageOf page answer = .ok read := .rfl

theorem pageIn_crash_iff {project : String} {withAssignments : Bool} {page : Nat} {outcome : Http.Outcome}
    (sound : Act.IsSound (.http (client.pageRequest project withAssignments page) outcome)) :
    (∃ crash, pageIn project page outcome = .error (.crash crash)) ↔
      ¬Act.IsLegible (.http (client.pageRequest project withAssignments page) outcome) := by
  apply crash_iff_illegible _ sound
  · simp [requestOf]
  · intro answer
    rw [reads_page]
    cases pageOf page answer <;> simp
  · exact ⟨_, rfl⟩

theorem pages_crash_iff {project : String} {withAssignments : Bool} {left page : Nat}
    {result : Except Failure (List Reservation)}
    (done : Job.Does (client.pagesFrom project withAssignments left page) acts result)
    (sound : ∀ act ∈ acts, act.IsSound) (patient : acts.length < left) :
    (∃ crash, result = .error (.crash crash)) ↔ ∃ act ∈ acts, ¬act.IsLegible := by
  -- A listing that never comes to its last page crashes in the end; with fewer acts than pages it does not get there.
  induction left generalizing page acts result with
  | zero => omega
  | succ left ih =>
    obtain ⟨outcome, rest, rfl, later⟩ := does_pagesFrom.mp done
    obtain ⟨first, others⟩ := List.forall_mem_cons.mp sound
    have crashes := pageIn_crash_iff first
    simp only [List.mem_cons, exists_eq_or_imp]
    rw [← crashes]
    rcases read : pageIn project page outcome with failure | ⟨reservations, _ | _⟩
    · simp only [read] at later
      obtain ⟨rfl, rfl⟩ := later
      simp
    · simp only [read] at later
      obtain ⟨more, listed, rfl⟩ := later
      have rest := ih listed others (by simpa using patient)
      rw [← rest]
      cases more <;> simp [Except.map]
    · simp only [read] at later
      obtain ⟨rfl, rfl⟩ := later
      simp

theorem perform_crash_iff {call : Call} {reply : Except Failure call.Reply}
    (performed : Job.Does (client.perform call) acts reply) (sound : ∀ act ∈ acts, act.IsSound)
    (patient : acts.length < client.pageLimit) :
    (∃ crash, reply = .error (.crash crash)) ↔ ∃ act ∈ acts, ¬act.IsLegible := by
  cases call with
  | list project withAssignments => exact pages_crash_iff (does_list.mp performed) sound patient
  | assign device address =>
    obtain ⟨outcome, rfl, rfl⟩ := does_assign.mp performed
    simpa using given_crash_iff (sound _ List.mem_cons_self)
  | unassign assignmentId =>
    obtain ⟨outcome, rfl, rfl⟩ := does_unassign.mp performed
    simpa using removed_crash_iff (sound _ List.mem_cons_self)

theorem Served.sound {before : List Act} (served : Served client before acts) (sound : ∀ act ∈ acts, act.IsSound) :
    ∀ act ∈ before, act.IsSound := by
  induction served with
  | nil => simp
  | metal _ _ ih =>
    exact List.forall_mem_cons.mpr ⟨trivial, ih fun act member => sound act (List.mem_append_right _ member)⟩
  | plain _ _ ih =>
    obtain ⟨first, others⟩ := List.forall_mem_cons.mp sound
    exact List.forall_mem_cons.mpr ⟨first, ih others⟩

private theorem legible_of_plain {act : Act} (plain : act.request.isPlain = true) : act.IsLegible := by
  obtain ⟨request, reply⟩ := act
  cases request with
  | http request =>
    cases reply with
    | answered status body =>
      left
      simpa [Request.isPlain] using plain
    | _ => trivial
  | _ => trivial

/-- The interface replies with a crash to a job exactly if an answer to the client is not legible. -/
theorem Served.crash_iff {before : List Act} (served : Served client before acts)
    (plain : ∀ act ∈ before, act.request.isPlain = true) (sound : ∀ act ∈ acts, act.IsSound)
    (patient : acts.length < client.pageLimit) :
    (∃ act ∈ before, ∃ crash, act.crash? = some crash) ↔ ∃ act ∈ acts, ¬act.IsLegible := by
  induction served with
  | nil => simp
  | @metal call reply asked before after performed _ ih =>
    obtain ⟨-, plain⟩ := List.forall_mem_cons.mp plain
    rw [List.forall_mem_append] at sound
    rw [List.length_append] at patient
    have here := perform_crash_iff performed sound.1 (by omega)
    have there := ih plain sound.2 (by omega)
    have told : (∃ crash, Act.crash? (.metal call reply) = some crash) ↔ ∃ crash, reply = .error (.crash crash) := by
      rcases reply with (problem | crash) | value <;> simp [Act.crash?]
    simp only [List.mem_cons, List.mem_append, or_and_right, exists_or, exists_eq_left]
    rw [told, here, there]
  | @plain act before after other _ ih =>
    obtain ⟨asked, plain⟩ := List.forall_mem_cons.mp plain
    obtain ⟨-, sound⟩ := List.forall_mem_cons.mp sound
    have there := ih plain sound (by simpa using Nat.lt_of_succ_lt patient)
    have silent : act.crash? = none := by
      obtain ⟨request, reply⟩ := act
      cases request with
      | metal call => cases other
      | _ => rfl
    simp only [List.mem_cons, exists_eq_or_imp, silent, there]
    simp [legible_of_plain asked]

end Metal.Client

namespace Sync

variable {settings : Settings} {mode : ServicePass.Mode} {client : Metal.Client}

/-- A sync comes to a report exactly if every answer is legible. -/
theorem report_iff_legible {acts : List Act} {result : Except Failure SyncReport}
    (done : Job.Does (client.connect (run settings mode)) acts result) (sound : ∀ act ∈ acts, act.IsSound)
    (patient : acts.length < client.pageLimit) :
    (∃ report, result = .ok report) ↔ ∀ act ∈ acts, act.IsLegible := by
  -- The job alone ends in the crashes that its calls reply with, and these come from answers of the interface.
  obtain ⟨before, alone, served⟩ := Metal.Client.does_connect.mp done
  obtain ⟨plain, crashes, -, problems⟩ := survives_run.does alone (served.sound sound)
  have illegible := served.crash_iff plain sound patient
  constructor
  · rintro ⟨report, rfl⟩ act member
    refine Classical.byContradiction fun unread => ?_
    obtain ⟨told, among, crash, tells⟩ := illegible.mpr ⟨act, member, unread⟩
    cases (crashes crash).mp ⟨told, among, tells⟩
  · intro legible
    rcases result with (problem | crash) | report
    · obtain ⟨_, ⟨⟩⟩ := problems problem rfl
    · obtain ⟨told, among, tells⟩ := (crashes crash).mpr rfl
      obtain ⟨act, member, unread⟩ := illegible.mp ⟨told, among, crash, tells⟩
      exact absurd (legible act member) unread
    · exact ⟨report, rfl⟩

private theorem does_half {α : Type} {name : String} {word : α → String} {pass : Job α} {acts : List Act}
    {result : Except Failure (Option α × List Problem)} :
    Job.Does (half name word pass) acts result ↔ ∃ ended, Job.Does pass acts ended ∧
      result = match ended with
        | .ok outcome => .ok (some outcome, [])
        | .error (.problem problem) => .ok (none, [problem])
        | .error (.crash crash) => .error (.crash crash) := by
  unfold half
  rw [Job.does_andThen]
  constructor
  · rintro ⟨first, ended, rest, rfl, done, later⟩
    refine ⟨ended, ?_⟩
    rcases ended with (problem | crash) | outcome
    · simp only [Job.does_log_bind, Job.does_pure] at later
      simpa [later.1] using ⟨done, later.2⟩
    · obtain ⟨rfl, rfl⟩ := Job.does_fail.mp later
      simpa using done
    · simp only [Job.does_log_bind, Job.does_pure] at later
      simpa [later.1] using ⟨done, later.2⟩
  · rintro ⟨ended, done, rfl⟩
    refine ⟨acts, ended, [], by simp, done, ?_⟩
    rcases ended with (problem | crash) | outcome
    · simp only [Job.does_log_bind, Job.does_pure, and_self]
    · exact Job.does_fail.mpr ⟨rfl, rfl⟩
    · simp only [Job.does_log_bind, Job.does_pure, and_self]

/-- The problem that one half of a sync ended in, as it is collected. -/
def problemsIn {α : Type} : Except Problem α → List Problem
  | .ok _ => []
  | .error problem => [problem]

/-- Both halves of a sync run, one after the other, and its report has what each of them ended in. -/
inductive Collects (settings : Settings) (mode : ServicePass.Mode) (client : Metal.Client) :
    List Act → SyncReport → Prop where
  | halves {first rest service node}
      (mirrored : Job.Does (client.connect (services settings mode)) first (service.mapError Failure.problem))
      (guarded : Job.Does (client.connect (nodes settings)) rest (node.mapError Failure.problem)) :
      Collects settings mode client (first ++ rest)
        ⟨service.toOption, node.toOption, problemsIn service ++ problemsIn node⟩

private theorem half_done {α : Type} {name : String} {word : α → String} {pass : Job α} {acts : List Act} {value : Option α}
    {problems : List Problem} (done : Job.Does (half name word pass) acts (.ok (value, problems))) :
    ∃ ended : Except Problem α, Job.Does pass acts (ended.mapError .problem) ∧ value = ended.toOption ∧
      problems = problemsIn ended := by
  obtain ⟨ended, passed, same⟩ := does_half.mp done
  rcases ended with (problem | crash) | outcome
  · cases same
    exact ⟨.error problem, passed, rfl, rfl⟩
  · cases same
  · cases same
    exact ⟨.ok outcome, passed, rfl, rfl⟩

theorem collects_of_done {acts : List Act} {report : SyncReport}
    (done : Job.Does (client.connect (run settings mode)) acts (.ok report)) :
    Collects settings mode client acts report := by
  obtain ⟨before, alone, served⟩ := Metal.Client.does_connect.mp done
  unfold run at alone
  rcases Job.does_bind.mp alone with ⟨_, ⟨⟩, -⟩ | ⟨⟨value, problems⟩, first, rest, rfl, mirroring, later⟩
  obtain ⟨⟨_⟩ | ⟨other, others⟩, guarding, same⟩ := Job.does_bind_pure.mp later
  · cases same
  · cases same
    obtain ⟨service, mirrored, rfl, rfl⟩ := half_done mirroring
    obtain ⟨node, guarded, rfl, rfl⟩ := half_done guarding
    obtain ⟨asked, after, rfl, now, next⟩ := Metal.Client.served_append.mp served
    exact .halves (Metal.Client.does_connect.mpr ⟨_, mirrored, now⟩) (Metal.Client.does_connect.mpr ⟨_, guarded, next⟩)

end Sync

end ElasticEndpoint
