import ElasticEndpoint.Proofs.Acts
import ElasticEndpoint.Metal.Client

/-!
Acts of the client of the cloud interface. Removing and making an assignment is one request each, and a
listing is one request for each page. A job that is connected to the client does what it does alone, with
every call to the interface replaced by the requests of that call.
-/

namespace ElasticEndpoint

/-- Whether a request is a call to the cloud interface. -/
def Request.isMetal : Request → Bool
  | .metal _ => true
  | _ => false

namespace Metal.Client

variable {client : Client} {acts : List Act}

/-- The value of a body, or what reading it fails with. -/
def bodyOf (name : String) (status : Int) (body : List UInt8) : Except Failure Value :=
  if status == 204 || body.isEmpty then .ok .null
  else
    match Json.parse (Text.Utf8.decode body).toList with
    | .ok value => .ok value
    | .error .tooDeep => .error (.crash .tooDeep)
    | .error fault => .error (.problem (.metal s!"Metal API {name} returned invalid JSON"
        (some (fault.message (Text.Utf8.decode body).toList))))

def callName (method : Http.Method) (path : String) : String := s!"{method.name} {path}"

/-- What the request of a call comes to. -/
def replyOf (name : String) : Http.Outcome → Except Failure Value
  | .broken text => .error (.crash (.system text))
  | .failed _ text => .error (.problem (.metal s!"Metal API request {name} failed" (some text)))
  | .answered status body =>
    if isOk status then bodyOf name status body
    else .error (.problem (.metal s!"Metal API {name} returned HTTP {status}"
      (if (Text.Utf8.decode body).isEmpty then none else some (Text.Utf8.decode body)) (some status)))

theorem valueOf_eq (name : String) (status : Int) (body : List UInt8) :
    valueOf name status body = .done (bodyOf name status body) := by
  unfold valueOf bodyOf
  split
  · rfl
  · dsimp only
    rcases Json.parse (Text.Utf8.decode body).toList with (_ | _ | _) | value <;> rfl

private theorem does_valueOf {name : String} {status : Int} {body : List UInt8} {result : Except Failure Value} :
    Job.Does (valueOf name status body) acts result ↔ acts = [] ∧ result = bodyOf name status body := by
  rw [valueOf_eq]
  exact Job.does_done

private theorem does_send {method : Http.Method} {path : String} {params : Option (List (String × Http.Parameter))}
    {json : Option (List (String × String))} {result : Except Failure Value} :
    Job.Does (client.send method path params json) acts result ↔
      ∃ outcome, acts = [.http (client.requestOf method path params json) outcome] ∧
        result = replyOf (callName method path) outcome := by
  unfold send replyOf callName
  dsimp only
  rw [Job.does_log_bind, Job.does_http_bind]
  refine exists_congr fun outcome => ?_
  cases outcome with
  | broken text => simp only [Job.does_crash, Job.last_act]
  | failed kind text => simp only [Job.does_log_bind, Job.does_problem, Job.last_act]
  | answered status body =>
    dsimp only
    split
    · simp only [does_valueOf, Job.last_act]
    · simp only [Job.does_log_bind, Job.does_problem, Job.last_act]

private theorem does_reading {α : Type} {read : Reading α} {result : Except Failure α} :
    Job.Does (reading read) acts result ↔ acts = [] ∧ result = read.mapError .crash := by
  cases read with
  | ok value => exact Job.does_pure
  | error crash => exact Job.does_crash

/-- The assignment that an answer gives; one without content stands for an assignment without identity. -/
def assignmentIn (device address : String) (answer : Value) : Reading Assignment :=
  if answer.truthy then assignmentOf answer else .ok ⟨"", some address, some device⟩

theorem assignmentIn_ok_iff {device address : String} {answer : Value} :
    (∃ assignment, assignmentIn device address answer = .ok assignment) ↔
      (answer.truthy = true → ∃ assignment, assignmentOf answer = .ok assignment) := by
  unfold assignmentIn
  split
  next full => simp [full]
  next blank => simp [blank]

abbrev removalOf (client : Client) (assignmentId : String) : Http.Request :=
  client.requestOf .delete s!"/ips/{assignmentId}" none none

abbrev givingOf (client : Client) (device address : String) : Http.Request :=
  client.requestOf .post s!"/devices/{device}/ips" none (some [("address", address)])

def removed (assignmentId : String) (outcome : Http.Outcome) : Except Failure Unit :=
  (replyOf (callName .delete s!"/ips/{assignmentId}") outcome).map fun _ => ()

def given (device address : String) (outcome : Http.Outcome) : Except Failure Assignment :=
  (replyOf (callName .post s!"/devices/{device}/ips") outcome).bind fun answer =>
    (assignmentIn device address answer).mapError .crash

theorem does_unassign {assignmentId : String} {result : Except Failure Unit} :
    Job.Does (client.unassign assignmentId) acts result ↔
      ∃ outcome, acts = [.http (client.removalOf assignmentId) outcome] ∧ result = removed assignmentId outcome := by
  unfold unassign removed
  rw [Job.does_single_bind does_send]
  refine exists_congr fun outcome => ?_
  cases replyOf (callName .delete s!"/ips/{assignmentId}") outcome with
  | error failure => exact Job.last_act
  | ok value => simp only [Job.does_log, Job.last_act, Except.map]

theorem does_assign {device address : String} {result : Except Failure Assignment} :
    Job.Does (client.assign device address) acts result ↔
      ∃ outcome, acts = [.http (client.givingOf device address) outcome] ∧ result = given device address outcome := by
  unfold assign given
  rw [Job.does_single_bind does_send]
  refine exists_congr fun outcome => ?_
  cases replyOf (callName .post s!"/devices/{device}/ips") outcome with
  | error failure => exact Job.last_act
  | ok answer =>
    simp only [Job.does_log_bind, Except.bind, assignmentIn]
    split
    · simp only [does_reading, Job.last_act]
    · simp only [Job.does_pure, Job.last_act, mapError_ok]

abbrev pageRequest (client : Client) (project : String) (withAssignments : Bool) (page : Nat) : Http.Request :=
  client.requestOf .get s!"/projects/{project}/ips" (some (pageParams withAssignments page)) none

def pageIn (project : String) (page : Nat) (outcome : Http.Outcome) : Except Failure (List Reservation × Bool) :=
  (replyOf (callName .get s!"/projects/{project}/ips") outcome).bind fun answer =>
    (pageOf page answer).mapError .crash

/-- A listing from a page on asks for one page after another, until one is the last or cannot be read, or so
many have been asked for. -/
theorem does_pagesFrom {project : String} {withAssignments : Bool} {left page : Nat}
    {result : Except Failure (List Reservation)} :
    Job.Does (client.pagesFrom project withAssignments (left + 1) page) acts result ↔
      ∃ outcome rest, acts = .http (client.pageRequest project withAssignments page) outcome :: rest ∧
        match pageIn project page outcome with
        | .error failure => rest = [] ∧ result = .error failure
        | .ok (reservations, true) => rest = [] ∧ result = .ok reservations
        | .ok (reservations, false) => ∃ others,
          Job.Does (client.pagesFrom project withAssignments left (page + 1)) rest others ∧
            result = others.map (reservations ++ ·) := by
  rw [pagesFrom, Job.does_single_bind does_send]
  refine exists_congr fun outcome => exists_congr fun rest => and_congr_right fun _ => ?_
  unfold pageIn
  cases replyOf (callName .get s!"/projects/{project}/ips") outcome with
  | error failure => rfl
  | ok answer =>
    dsimp only [Except.bind]
    rw [Job.does_still_bind does_reading]
    rcases pageOf page answer with crash | ⟨reservations, _ | _⟩
    · rfl
    · exact Job.does_bind_pure
    · exact Job.does_pure

theorem does_list {project : String} {withAssignments : Bool} {result : Except Failure (List Reservation)} :
    Job.Does (client.list project withAssignments) acts result ↔
      Job.Does (client.pagesFrom project withAssignments client.pageLimit 1) acts result := by
  unfold list
  rw [Job.does_bind_congr fun _ _ => Job.does_log_bind, Job.does_bind_pure]
  constructor
  · rintro ⟨before, done, rfl⟩
    cases before <;> exact done
  · intro done
    exact ⟨result, done, by cases result <;> rfl⟩

/-- The client turns some acts into others: calls to the cloud interface into the requests of these calls, and
all others into themselves. -/
inductive Served (client : Client) : List Act → List Act → Prop where
  | nil : Served client [] []
  | metal {call reply asked before after} (performed : Job.Does (client.perform call) asked reply)
      (rest : Served client before after) : Served client (.metal call reply :: before) (asked ++ after)
  | plain {act : Act} {before after} (other : act.request.isMetal = false) (rest : Served client before after) :
      Served client (act :: before) (act :: after)

theorem Served.append {before after more others : List Act} (first : Served client before after)
    (rest : Served client more others) : Served client (before ++ more) (after ++ others) := by
  induction first with
  | nil => exact rest
  | metal performed _ ih =>
    rw [List.append_assoc]
    exact .metal performed ih
  | plain other _ ih => exact .plain other ih

theorem served_metal {call : Call} {reply : Except Failure call.Reply} {before : List Act} :
    Served client (.metal call reply :: before) acts ↔
      ∃ asked after, acts = asked ++ after ∧ Job.Does (client.perform call) asked reply ∧
        Served client before after := by
  constructor
  · rintro (_ | ⟨performed, rest⟩ | ⟨other, _⟩)
    · exact ⟨_, _, rfl, performed, rest⟩
    · cases other
  · rintro ⟨asked, after, rfl, performed, rest⟩
    exact .metal performed rest

theorem served_plain {act : Act} {before : List Act} (other : act.request.isMetal = false) :
    Served client (act :: before) acts ↔ ∃ after, acts = act :: after ∧ Served client before after := by
  constructor
  · rintro (_ | ⟨_, _⟩ | ⟨_, rest⟩)
    · cases other
    · exact ⟨_, rfl, rest⟩
  · rintro ⟨after, rfl, rest⟩
    exact .plain other rest

theorem served_nil : Served client [] acts ↔ acts = [] := by
  constructor
  · rintro ⟨⟩
    rfl
  · rintro rfl
    exact .nil

theorem served_others {before : List Act} (others : ∀ act ∈ before, act.request.isMetal = false) :
    Served client before acts ↔ acts = before := by
  induction before generalizing acts with
  | nil => exact served_nil
  | cons act before ih =>
    rw [served_plain (others act List.mem_cons_self)]
    have rest := fun {acts} => @ih acts fun act member => others act (List.mem_cons_of_mem _ member)
    simp only [rest, exists_eq_right]

theorem served_append {first rest : List Act} :
    Served client (first ++ rest) acts ↔
      ∃ before after, acts = before ++ after ∧ Served client first before ∧ Served client rest after := by
  constructor
  · intro served
    induction first generalizing acts with
    | nil => exact ⟨[], acts, rfl, .nil, served⟩
    | cons act first ih =>
      cases served with
      | metal performed others =>
        obtain ⟨before, after, rfl, served, later⟩ := ih others
        exact ⟨_, after, (List.append_assoc ..).symm, .metal performed served, later⟩
      | plain other others =>
        obtain ⟨before, after, rfl, served, later⟩ := ih others
        exact ⟨_, after, rfl, .plain other served, later⟩
  · rintro ⟨before, after, rfl, served, later⟩
    exact served.append later

theorem serve_other {request : Request} (other : request.isMetal = false) :
    client.serve request = Job.ask request := by
  cases request with
  | metal call => cases other
  | _ => rfl

/-- What a connected job does is what the job does alone, turned by the client. -/
theorem does_connect {α : Type} {job : Job α} {result : Except Failure α} :
    Job.Does (client.connect job) acts result ↔
      ∃ before, Job.Does job before result ∧ Served client before acts := by
  -- A call becomes the acts that perform it, a record is no act on either side, and all else stays as it is.
  induction job generalizing acts with
  | done settled =>
    change Job.Does (.done settled) acts result ↔ _
    simp only [Job.does_done]
    constructor
    · rintro ⟨rfl, rfl⟩
      exact ⟨[], ⟨rfl, rfl⟩, .nil⟩
    · rintro ⟨_, ⟨rfl, rfl⟩, served⟩
      exact ⟨served_nil.mp served, rfl⟩
  | ask request next ih =>
    change Job.Does (client.serve request >>= fun reply => client.connect (next reply)) acts result ↔ _
    cases metal : request.isMetal with
    | true =>
      cases request with
      | metal call =>
        change Job.Does ((client.perform call).attempt.bind fun reply => client.connect (next reply)) acts result ↔ _
        unfold Program.bind Program.attempt
        rw [Program.andThen_andThen, Job.does_andThen]
        simp only [Job.does_request (show (Request.metal call).isLog = false from rfl)]
        constructor
        · rintro ⟨asked, reply, rest, rfl, performed, later⟩
          obtain ⟨before, done, served⟩ := (ih reply).mp later
          exact ⟨_, ⟨reply, before, rfl, done⟩, .metal performed served⟩
        · rintro ⟨_, ⟨reply, before, rfl, done⟩, served⟩
          obtain ⟨asked, after, rfl, performed, rest⟩ := served_metal.mp served
          exact ⟨asked, reply, after, rfl, performed, (ih reply).mpr ⟨before, done, rest⟩⟩
      | _ => cases metal
    | false =>
      rw [serve_other metal]
      cases logged : request.isLog with
      | true =>
        cases request with
        | log record =>
          change Job.Does (Job.log record.part record.severity record.message >>= _) acts result ↔
            ∃ before, Job.Does (Job.log record.part record.severity record.message >>= next) before result ∧ _
          simp only [Job.does_log_bind]
          exact ih ()
        | _ => cases logged
      | false =>
        rw [Job.does_ask_bind logged]
        simp only [Job.does_request logged]
        constructor
        · rintro ⟨reply, rest, rfl, later⟩
          obtain ⟨before, done, served⟩ := (ih reply).mp later
          exact ⟨_, ⟨reply, before, rfl, done⟩, .plain metal served⟩
        · rintro ⟨_, ⟨reply, before, rfl, done⟩, served⟩
          obtain ⟨after, rfl, rest⟩ := (served_plain metal).mp served
          exact ⟨reply, after, rfl, (ih reply).mpr ⟨before, done, rest⟩⟩

end Metal.Client

end ElasticEndpoint
