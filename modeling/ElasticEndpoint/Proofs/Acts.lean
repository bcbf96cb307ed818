import ElasticEndpoint.Proofs.History
import ElasticEndpoint.Job

/-!
Acts of jobs. The acts of a job are the exchanges of a history that do more than record a message.
Each way of building a job has a rule for the acts that it can do and the result it then ends in.
-/

namespace ElasticEndpoint

def Request.isLog : Request → Bool
  | .log _ => true
  | _ => false

/-- The assignment or removal that a request asks for. -/
def Request.change? : Request → Option Metal.Call
  | .metal (.assign instanceId address) => some (.assign instanceId address)
  | .metal (.unassign assignmentId) => some (.unassign assignmentId)
  | _ => none

/-- The name of the node that a request reads. -/
def Request.nodeRead? : Request → Option (Option String)
  | .cluster (.readNode name) _ => some name
  | _ => none

/-- The address that a request over HTTP goes to. -/
def Request.url? : Request → Option String
  | .http request => some request.url
  | _ => none

abbrev Act := Exchange Request.Reply

section

variable {ε ε' α : Type} (convert : ε → ε')

@[simp]
theorem mapError_ok (value : α) : (.ok value : Except ε α).mapError convert = .ok value := rfl

@[simp]
theorem mapError_error (failure : ε) :
    (.error failure : Except ε α).mapError convert = .error (convert failure) := rfl

end

namespace Act

abbrev metal (call : Metal.Call) (reply : Except Failure call.Reply) : Act := ⟨.metal call, reply⟩

abbrev cluster (call : Cluster.Call) (timeout : Option Duration)
    (reply : Except Cluster.CallFailure call.Reply) : Act := ⟨.cluster call timeout, reply⟩

abbrev http (request : Http.Request) (outcome : Http.Outcome) : Act := ⟨.http request, outcome⟩

/-- The changes asked for among some acts, in order. -/
def changes (acts : List Act) : List Metal.Call := acts.filterMap (·.request.change?)

/-- The names of the nodes read among some acts, in order. -/
def reads (acts : List Act) : List (Option String) := acts.filterMap (·.request.nodeRead?)

/-- The addresses of the requests over HTTP among some acts, in order. -/
def urls (acts : List Act) : List String := acts.filterMap (·.request.url?)

@[simp]
theorem changes_nil : changes [] = [] := rfl

@[simp]
theorem reads_nil : reads [] = [] := rfl

@[simp]
theorem urls_nil : urls [] = [] := rfl

@[simp]
theorem changes_append (first rest : List Act) : changes (first ++ rest) = changes first ++ changes rest :=
  List.filterMap_append

@[simp]
theorem reads_append (first rest : List Act) : reads (first ++ rest) = reads first ++ reads rest :=
  List.filterMap_append

@[simp]
theorem urls_append (first rest : List Act) : urls (first ++ rest) = urls first ++ urls rest :=
  List.filterMap_append

section

variable (rest : List Act)

@[simp]
theorem reads_readNode (name : Option String) (timeout : Option Duration)
    (reply : Except Cluster.CallFailure Cluster.Node) :
    reads (cluster (.readNode name) timeout reply :: rest) = name :: reads rest := rfl

@[simp]
theorem changes_cluster (call : Cluster.Call) (timeout : Option Duration)
    (reply : Except Cluster.CallFailure call.Reply) : changes (cluster call timeout reply :: rest) = changes rest := rfl

@[simp]
theorem changes_assign (instanceId address : String) (reply : Except Failure Assignment) :
    changes (metal (.assign instanceId address) reply :: rest) = .assign instanceId address :: changes rest := rfl

@[simp]
theorem changes_unassign (assignmentId : String) (reply : Except Failure Unit) :
    changes (metal (.unassign assignmentId) reply :: rest) = .unassign assignmentId :: changes rest := rfl

end

end Act

namespace Job

variable {α β : Type}

/-- A job does some acts and ends in a result. -/
def Does (job : Job α) (acts : List Act) (result : Except Failure α) : Prop :=
  ∃ history, job.Ends history result ∧ history.filter (!·.request.isLog) = acts

variable {acts : List Act}

theorem last_act {act : Act} {ends : Prop} :
    (∃ rest, acts = act :: rest ∧ rest = [] ∧ ends) ↔ acts = [act] ∧ ends := by
  constructor
  · rintro ⟨_, rfl, rfl, ended⟩
    exact ⟨rfl, ended⟩
  · rintro ⟨rfl, ended⟩
    exact ⟨[], rfl, rfl, ended⟩

theorem does_done {result last : Except Failure α} :
    Does (.done result) acts last ↔ acts = [] ∧ last = result := by
  constructor
  · rintro ⟨history, ended, rfl⟩
    obtain ⟨rfl, rfl⟩ := Program.ends_done.mp ended
    exact ⟨rfl, rfl⟩
  · rintro ⟨rfl, rfl⟩
    exact ⟨[], .done _, rfl⟩

theorem does_pure {value : α} {last : Except Failure α} :
    Does (pure value) acts last ↔ acts = [] ∧ last = .ok value := does_done

theorem does_fail {failure : Failure} {last : Except Failure α} :
    Does (.fail failure) acts last ↔ acts = [] ∧ last = .error failure := does_done

theorem does_problem {problem : Problem} {last : Except Failure α} :
    Does (Job.problem problem) acts last ↔ acts = [] ∧ last = .error (.problem problem) := does_done

theorem does_crash {crash : Crash} {last : Except Failure α} :
    Does (Job.crash crash) acts last ↔ acts = [] ∧ last = .error (.crash crash) := does_done

theorem does_request {request : Request} {next : request.Reply → Job α} {result : Except Failure α}
    (silent : request.isLog = false) :
    Does (Program.ask request next) acts result ↔
      ∃ reply rest, acts = ⟨request, reply⟩ :: rest ∧ Does (next reply) rest result := by
  constructor
  · rintro ⟨history, ended, rfl⟩
    obtain ⟨reply, rest, rfl, later⟩ := Program.ends_ask.mp ended
    exact ⟨reply, _, by simp [silent], rest, later, rfl⟩
  · rintro ⟨reply, _, rfl, rest, ended, rfl⟩
    exact ⟨⟨request, reply⟩ :: rest, .ask ended, by simp [silent]⟩

theorem does_andThen {job : Job α} {next : Except Failure α → Job β} {result : Except Failure β} :
    Does (job.andThen next) acts result ↔
      ∃ first middle rest, acts = first ++ rest ∧ Does job first middle ∧ Does (next middle) rest result := by
  constructor
  · rintro ⟨history, ended, rfl⟩
    obtain ⟨first, middle, rest, rfl, ended, later⟩ := Program.ends_andThen.mp ended
    exact ⟨_, middle, _, List.filter_append .., ⟨first, ended, rfl⟩, ⟨rest, later, rfl⟩⟩
  · rintro ⟨_, middle, _, rfl, ⟨first, ended, rfl⟩, ⟨rest, later, rfl⟩⟩
    exact ⟨first ++ rest, Program.ends_andThen.mpr ⟨first, middle, rest, rfl, ended, later⟩,
      List.filter_append ..⟩

/-- A job that goes on with a value either fails before it has one, or goes on after the acts that led
to it. -/
theorem does_bind {job : Job α} {next : α → Job β} {result : Except Failure β} :
    Does (job >>= next) acts result ↔
      (∃ failure, result = .error failure ∧ Does job acts (.error failure)) ∨
        ∃ value first rest, acts = first ++ rest ∧ Does job first (.ok value) ∧ Does (next value) rest result := by
  change Does (Program.bind job next) acts result ↔ _
  unfold Program.bind
  rw [does_andThen]
  constructor
  · rintro ⟨first, middle, rest, rfl, done, later⟩
    cases middle with
    | ok value => exact .inr ⟨value, first, rest, rfl, done, later⟩
    | error failure =>
      obtain ⟨rfl, rfl⟩ := does_done.mp later
      exact .inl ⟨failure, rfl, by simpa using done⟩
  · rintro (⟨failure, rfl, done⟩ | ⟨value, first, rest, rfl, done, later⟩)
    · exact ⟨acts, .error failure, [], by simp, done, does_done.mpr ⟨rfl, rfl⟩⟩
    · exact ⟨first, .ok value, rest, rfl, done, later⟩

/-- Going on with the value of a job that is one act, where the act decides the result. -/
theorem does_single_bind {ι : Type} {job : Job α} {act : ι → Act} {result : ι → Except Failure α}
    (single : ∀ {acts middle}, Does job acts middle ↔ ∃ reply, acts = [act reply] ∧ middle = result reply)
    {next : α → Job β} {last : Except Failure β} :
    Does (job >>= next) acts last ↔
      ∃ reply rest, acts = act reply :: rest ∧
        match result reply with
        | .ok value => Does (next value) rest last
        | .error failure => rest = [] ∧ last = .error failure := by
  rw [does_bind]
  simp only [single]
  constructor
  · rintro (⟨failure, rfl, reply, rfl, failed⟩ | ⟨value, _, rest, rfl, ⟨reply, rfl, found⟩, later⟩)
    · exact ⟨reply, [], rfl, by rw [← failed]; exact ⟨rfl, rfl⟩⟩
    · exact ⟨reply, rest, rfl, by rw [← found]; exact later⟩
  · rintro ⟨reply, rest, rfl, later⟩
    cases settled : result reply with
    | ok value =>
      rw [settled] at later
      exact .inr ⟨value, _, rest, rfl, ⟨reply, rfl, settled.symm⟩, later⟩
    | error failure =>
      rw [settled] at later
      obtain ⟨rfl, rfl⟩ := later
      exact .inl ⟨failure, rfl, reply, rfl, settled.symm⟩

/-- Going on with the value of a job that does nothing. -/
theorem does_still_bind {job : Job α} {settled : Except Failure α} {next : α → Job β} {result : Except Failure β} :
    (∀ {acts result}, Does job acts result ↔ acts = [] ∧ result = settled) →
      (Does (job >>= next) acts result ↔
        match settled with
        | .ok value => Does (next value) acts result
        | .error failure => acts = [] ∧ result = .error failure) := by
  intro still
  rw [does_bind]
  simp only [still]
  cases settled with
  | error failure =>
    constructor
    · rintro (⟨other, rfl, rfl, same⟩ | ⟨_, _, _, rfl, ⟨-, impossible⟩, -⟩)
      · cases same
        exact ⟨rfl, rfl⟩
      · cases impossible
    · rintro ⟨rfl, rfl⟩
      exact .inl ⟨failure, rfl, rfl, rfl⟩
  | ok value =>
    constructor
    · rintro (⟨_, -, -, impossible⟩ | ⟨_, _, rest, rfl, ⟨rfl, same⟩, later⟩)
      · cases impossible
      · cases same
        exact later
    · intro later
      exact .inr ⟨value, [], acts, rfl, ⟨rfl, rfl⟩, later⟩

theorem does_bind_congr {job : Job α} {next other : α → Job β} {result : Except Failure β}
    (same : ∀ value rest, Does (next value) rest result ↔ Does (other value) rest result) :
    Does (job >>= next) acts result ↔ Does (job >>= other) acts result := by
  rw [does_bind, does_bind]
  simp only [same]

theorem does_bind_pure {job : Job α} {convert : α → β} {result : Except Failure β} :
    Does (job >>= fun value => pure (convert value)) acts result ↔
      ∃ before, Does job acts before ∧ result = before.map convert := by
  rw [does_bind]
  simp only [does_pure]
  constructor
  · rintro (⟨failure, rfl, done⟩ | ⟨value, first, rest, rfl, done, rfl, rfl⟩)
    · exact ⟨.error failure, done, rfl⟩
    · exact ⟨.ok value, by simpa using done, rfl⟩
  · rintro ⟨failure | value, done, rfl⟩
    · exact .inl ⟨failure, rfl, done⟩
    · exact .inr ⟨value, acts, [], by simp, done, rfl, rfl⟩

theorem does_log {part : Part} {severity : Severity} {message : String} {result : Except Failure Unit} :
    Does (Job.log part severity message) acts result ↔ acts = [] ∧ result = .ok () := by
  constructor
  · rintro ⟨history, ended, rfl⟩
    obtain ⟨reply, rest, rfl, later⟩ := Program.ends_ask.mp ended
    obtain ⟨rfl, rfl⟩ := Program.ends_done.mp later
    exact ⟨rfl, rfl⟩
  · rintro ⟨rfl, rfl⟩
    exact ⟨[⟨.log ⟨part, severity, message⟩, ()⟩], .ask (.done _), rfl⟩

theorem does_log_bind {part : Part} {severity : Severity} {message : String} {next : Unit → Job α}
    {result : Except Failure α} :
    Does (Job.log part severity message >>= next) acts result ↔ Does (next ()) acts result := by
  rw [does_bind]
  simp only [does_log]
  constructor
  · rintro (⟨failure, -, -, impossible⟩ | ⟨_, _, rest, rfl, ⟨rfl, -⟩, later⟩)
    · cases impossible
    · exact later
  · intro later
    exact .inr ⟨(), [], acts, rfl, ⟨rfl, trivial⟩, later⟩

theorem does_pure_bind {value : α} {next : α → Job β} {result : Except Failure β} :
    Does (pure value >>= next) acts result ↔ Does (next value) acts result := .rfl

theorem does_problem_bind {problem : Problem} {next : α → Job β} {result : Except Failure β} :
    Does (Job.problem problem >>= next) acts result ↔ acts = [] ∧ result = .error (.problem problem) :=
  does_done

theorem does_ask_bind {request : Request} {next : request.Reply → Job α} {result : Except Failure α}
    (silent : request.isLog = false) :
    Does (Job.ask request >>= next) acts result ↔
      ∃ reply rest, acts = ⟨request, reply⟩ :: rest ∧ Does (next reply) rest result := does_request silent

theorem does_ports_bind {next : Ports → Job α} {result : Except Failure α} :
    Does (Job.ports >>= next) acts result ↔
      ∃ (ports : Ports) (rest : List Act), acts = ⟨.ports, ports⟩ :: rest ∧ Does (next ports) rest result :=
  does_ask_bind rfl

theorem does_http_bind {request : Http.Request} {next : Http.Outcome → Job α} {result : Except Failure α} :
    Does (Job.http request >>= next) acts result ↔
      ∃ outcome rest, acts = .http request outcome :: rest ∧ Does (next outcome) rest result :=
  does_ask_bind rfl

theorem does_metal {call : Metal.Call} {result : Except Failure call.Reply} :
    Does (Job.metal call) acts result ↔ acts = [.metal call result] := by
  unfold Job.metal
  rw [does_request rfl]
  simp only [does_done]
  constructor
  · rintro ⟨reply, _, rfl, rfl, rfl⟩
    rfl
  · rintro rfl
    exact ⟨result, [], rfl, rfl, rfl⟩

/-- A call to the cloud interface is one act, and a failure of it ends the job. -/
theorem does_metal_bind {call : Metal.Call} {next : call.Reply → Job α} {result : Except Failure α} :
    Does (Job.metal call >>= next) acts result ↔
      (∃ failure, acts = [.metal call (.error failure)] ∧ result = .error failure) ∨
        ∃ reply rest, acts = .metal call (.ok reply) :: rest ∧ Does (next reply) rest result := by
  rw [does_bind]
  simp only [does_metal]
  constructor
  · rintro (⟨failure, rfl, rfl⟩ | ⟨reply, _, rest, rfl, rfl, later⟩)
    · exact .inl ⟨failure, rfl, rfl⟩
    · exact .inr ⟨reply, rest, rfl, later⟩
  · rintro (⟨failure, rfl, rfl⟩ | ⟨reply, rest, rfl, later⟩)
    · exact .inl ⟨failure, rfl, rfl⟩
    · exact .inr ⟨reply, _, rest, rfl, rfl, later⟩

/-- A call to the cluster is one act; a crash of it ends the job, and a fault is handed on. -/
theorem does_cluster_bind {call : Cluster.Call} {timeout : Option Duration}
    {next : Except Cluster.Fault call.Reply → Job α} {result : Except Failure α} :
    Does (Job.cluster call timeout >>= next) acts result ↔
      ∃ reply rest, acts = .cluster call timeout reply :: rest ∧
        match reply with
        | .ok value => Does (next (.ok value)) rest result
        | .error (.fault fault) => Does (next (.error fault)) rest result
        | .error (.crash crash) => rest = [] ∧ result = .error (.crash crash) := by
  change Does (Program.bind (Job.cluster call timeout) next) acts result ↔ _
  unfold Job.cluster Program.bind
  simp only [Program.andThen]
  rw [does_request rfl]
  refine exists_congr fun reply => exists_congr fun rest => and_congr_right fun _ => ?_
  rcases reply with (fault | crash) | value
  · rfl
  · exact does_done
  · rfl

private theorem does_leaveGuard {result : Except Failure Unit} :
    Does leaveGuard acts result ↔
      ∃ left : Bool, acts = [⟨.leaveGuard, left⟩] ∧
        result = if left then .ok () else .error (.crash (.runtime Guard.leftWhileIdle)) := by
  unfold leaveGuard
  rw [does_ask_bind rfl]
  refine exists_congr fun (left : Bool) => ?_
  cases left <;> simp only [Bool.false_eq_true, ↓reduceIte, does_pure, does_crash, last_act]

/-- A guarded body that entered is followed by leaving, which only shows in the result when it fails. -/
theorem does_guarded {body : Bool → Job α} {result : Except Failure α} :
    Does (guarded body) acts result ↔
      (∃ rest, acts = ⟨.enterGuard, false⟩ :: rest ∧ Does (body false) rest result) ∨
        ∃ (within : List Act) (middle : Except Failure α) (left : Bool),
          acts = ⟨.enterGuard, true⟩ :: (within ++ [⟨.leaveGuard, left⟩]) ∧ Does (body true) within middle ∧
            result = if left then middle else .error (.crash (.runtime Guard.leftWhileIdle)) := by
  have leaving {middle last : Except Failure α} {rest : List Act} :
      Does (leaveGuard.bind fun _ => .done middle) rest last ↔ ∃ left : Bool, rest = [⟨.leaveGuard, left⟩] ∧
        last = if left then middle else .error (.crash (.runtime Guard.leftWhileIdle)) := by
    change Does (leaveGuard >>= fun _ => .done middle) rest last ↔ _
    rw [does_single_bind does_leaveGuard]
    refine exists_congr fun left => ?_
    cases left <;> simp only [Bool.false_eq_true, ↓reduceIte, does_done, last_act]
  unfold guarded
  rw [does_ask_bind rfl]
  constructor
  · rintro ⟨entered, rest, rfl, done⟩
    obtain ⟨within, middle, closing, rfl, inside, closed⟩ := does_andThen.mp done
    cases entered with
    | false =>
      obtain ⟨rfl, rfl⟩ := does_done.mp closed
      exact .inl ⟨within, by simp, inside⟩
    | true =>
      obtain ⟨left, rfl, rfl⟩ := leaving.mp closed
      exact .inr ⟨within, middle, left, rfl, inside, rfl⟩
  · rintro (⟨rest, rfl, inside⟩ | ⟨within, middle, left, rfl, inside, rfl⟩)
    · exact ⟨false, rest, rfl, does_andThen.mpr ⟨rest, result, [], by simp, inside, does_done.mpr ⟨rfl, rfl⟩⟩⟩
    · exact ⟨true, _, rfl, does_andThen.mpr ⟨within, middle, _, rfl, inside, leaving.mpr ⟨left, rfl, rfl⟩⟩⟩

/-- Surroundings in which records make no difference answer the acts of a history as they answer the whole
of it. -/
theorem answers_acts {σ : Type} {answer : (request : Request) → σ → request.Reply × σ} (Same : σ → σ → Prop)
    (logged : ∀ record {first second}, Same first second → Same first (answer (.log record) second).2)
    (alike : ∀ request {first second}, Same first second →
      (answer request first).1 = (answer request second).1 ∧ Same (answer request first).2 (answer request second).2)
    {first second last : σ} {history : List Act} (answered : Program.Answers answer second history last)
    (same : Same first second) :
    ∃ after, Program.Answers answer first (history.filter (!·.request.isLog)) after ∧ Same after last := by
  induction answered generalizing first with
  | nil second => exact ⟨first, .nil _, same⟩
  | @cons request second history last rest ih =>
    cases silent : request.isLog with
    | true =>
      cases request with
      | log record =>
        obtain ⟨after, answered, last⟩ := ih (logged record same)
        exact ⟨after, by simpa [Request.isLog] using answered, last⟩
      | _ => cases silent
    | false =>
      obtain ⟨reply, next⟩ := alike request same
      obtain ⟨after, answered, last⟩ := ih next
      refine ⟨after, ?_, last⟩
      rw [List.filter_cons_of_pos (by simp [silent])]
      exact Program.answers_cons.mpr ⟨reply.symm, answered⟩

end Job

end ElasticEndpoint
