import ElasticEndpoint.Proofs.PassRequests

/-!
Announced problems. A job announces its problems when it records an error before it ends in one. Once a pass has
its reservation, it announces whatever goes wrong.
-/

namespace ElasticEndpoint

open Cluster (Node Service ServicePort)

/-- Whether a request records an error. -/
def Request.isAlarm : Request → Bool
  | .log record => record.severity == .error
  | _ => false

def Act.Alarm (acts : List Act) : Prop := ∃ act ∈ acts, act.request.isAlarm = true

theorem Act.alarm_nil : ¬Alarm [] := by simp [Alarm]

theorem Act.alarm_append {first rest : List Act} : Alarm (first ++ rest) ↔ Alarm first ∨ Alarm rest := by
  simp only [Alarm, List.mem_append, or_and_right, exists_or]

theorem Act.alarm_cons {act : Act} {rest : List Act} :
    Alarm (act :: rest) ↔ act.request.isAlarm = true ∨ Alarm rest := by
  simp only [Alarm, List.mem_cons, or_and_right, exists_or, exists_eq_left]

namespace Job

variable {α β : Type}

/-- A job ends in a problem only with an error recorded, which may have been before it. A condition ties its value to
whether one was recorded by then. -/
def Announces (post : Bool → α → Prop) : Bool → Job α → Prop
  | heard, Program.done (.ok value) => post heard value
  | heard, Program.done (.error (.problem _)) => heard = true
  | _, Program.done (.error (.crash _)) => True
  | heard, Program.ask request next => ∀ reply, Announces post (request.isAlarm || heard) (next reply)

abbrev Tells (heard : Bool) (job : Job α) : Prop := job.Announces (fun _ _ => True) heard

variable {post : Bool → α → Prop} {other : Bool → β → Prop} {heard : Bool}

theorem Announces.ends {job : Job α} {history : List Act} {problem : Problem} (announces : job.Announces post heard)
    (ended : job.Ends history (.error (.problem problem))) : heard = true ∨ Act.Alarm history := by
  generalize failed : Except.error (Failure.problem problem) = result at ended
  induction ended generalizing heard with
  | done =>
    subst failed
    exact .inl announces
  | ask rest ih =>
    rw [Act.alarm_cons, ← or_assoc, or_comm (a := heard = true), ← Bool.or_eq_true]
    exact ih (announces _) failed

theorem Announces.andThen {job : Job α} {next : Except Failure α → Job β} (first : job.Announces post heard)
    (value : ∀ value heard, post heard value → (next (.ok value)).Announces other heard)
    (problem : ∀ problem, (next (.error (.problem problem))).Announces other true)
    (crash : ∀ crash heard, (next (.error (.crash crash))).Announces other heard) :
    Announces other heard (job.andThen next) := by
  induction job generalizing heard with
  | done result =>
    rcases result with (failure | failure) | found
    · obtain rfl : heard = true := first
      exact problem failure
    · exact crash failure heard
    · exact value found heard first
  | ask request rest ih => exact fun reply => ih reply (first reply)

/-- What follows may announce a problem in place of the job before it. -/
theorem Announces.after {job : Job α} {next : Except Failure α → Job β}
    (later : ∀ result heard, (next result).Announces other heard) : Announces other heard (job.andThen next) := by
  induction job generalizing heard with
  | done result => exact later result heard
  | ask request rest ih => exact fun reply => ih reply

theorem Announces.bind {job : Job α} {next : α → Job β} (first : job.Announces post heard)
    (value : ∀ value heard, post heard value → (next value).Announces other heard) :
    Announces other heard (job >>= next) := by
  apply Announces.andThen first value
  · intro problem
    rfl
  · intro crash heard
    trivial

theorem Tells.bind {job : Job α} {next : α → Job β} (first : job.Tells heard)
    (value : ∀ value heard, (next value).Announces other heard) : Announces other heard (job >>= next) :=
  Announces.bind first fun found heard _ => value found heard

theorem Announces.log_bind {part : Part} {severity : Severity} {message : String} {next : Unit → Job β}
    (later : (next ()).Announces other (severity == .error || heard)) :
    Announces other heard (Job.log part severity message >>= next) := fun _ => later

private theorem tells_cluster {call : Cluster.Call} {timeout : Option Duration} : (cluster call timeout).Tells heard := by
  intro reply
  rcases reply with (fault | crash) | value <;> trivial

private theorem tells_logAll {records : List Record} : (logAll records).Tells heard := by
  induction records generalizing heard with
  | nil => trivial
  | cons record records ih => exact fun _ => ih

private theorem tells_observePort {port : Net.Port} : (observePort port).Tells heard :=
  fun _ => tells_logAll.bind fun _ _ => trivial

end Job

open Job (Announces Tells)

variable {heard : Bool}

private theorem Health.announces_probe {timeout : Option Duration} {url : String} :
    (probe timeout url).Announces (fun heard health => ∀ error, health = .unreachable error → heard = true) heard := by
  apply Announces.log_bind
  intro outcome
  cases outcome with
  | broken => trivial
  | failed =>
    apply Announces.log_bind
    exact fun _ _ => rfl
  | answered status body =>
    change Announces _ _ (if status != 200 then _ else _)
    split
    all_goals
      apply Announces.log_bind
      intro error impossible
      cases impossible

namespace NodePass

variable {setup : Setup} {nodes : List (Option Node)} {reservation : Reservation} {eipUrl : String}

theorem tells_refuseMultiple {part : Part} : (refuseMultiple part reservation).Tells heard := by
  unfold refuseMultiple
  dsimp only
  split
  · apply Announces.log_bind
    rfl
  · trivial

theorem tells_checkElastic : (checkElastic setup reservation eipUrl).Tells heard := by
  unfold checkElastic
  split
  · apply Announces.log_bind
    trivial
  · apply Announces.log_bind
    apply Health.announces_probe.bind
    intro health heard announced
    split
    · trivial
    · cases health with
      | answered =>
        apply Announces.log_bind
        trivial
      | unreachable error =>
        dsimp only
        split
        · exact announced error rfl
        · apply Announces.log_bind
          trivial

theorem tells_controlPlane : (controlPlane nodes).Tells heard := by
  induction nodes generalizing heard with
  | nil => trivial
  | cons place nodes ih =>
    cases place with
    | none => trivial
    | some node =>
      unfold controlPlane
      split
      · apply Announces.log_bind
        exact ih.bind fun _ _ => trivial
      · exact ih

theorem tells_startFailover : (startFailover setup nodes reservation eipUrl).Tells heard := by
  apply Announces.after
  intro moved heard
  rcases moved with (problem | crash) | move
  · apply Announces.log_bind
    rfl
  · trivial
  · exact fun _ => trivial

end NodePass

namespace ServicePass

variable {timeout : Option Duration} {eip : String}

private theorem tells_refuse {α : Type} {note message : String} {fault : Cluster.Fault} :
    Tells heard (refuse note message fault : Job α) := by
  apply Announces.log_bind
  rfl

private theorem tells_mirroredEndpoints : (mirroredEndpoints timeout).Tells heard := by
  apply Job.tells_cluster.bind
  intro reply heard
  cases reply with
  | ok mine => trivial
  | error fault =>
    dsimp only
    split
    · apply Announces.log_bind
      trivial
    · exact tells_refuse

private theorem tells_mirrorEndpoints {space name : String} : (mirrorEndpoints timeout space name).Tells heard := by
  apply Job.tells_cluster.bind
  intro served heard
  cases served with
  | error => exact tells_refuse
  | ok served =>
    apply tells_mirroredEndpoints.bind
    intro (existed, mine) heard
    dsimp only
    split
    all_goals
      apply Job.tells_cluster.bind
      intro written heard
      cases written with
      | ok => trivial
      | error => exact tells_refuse

private theorem tells_mirroredService : (mirroredService timeout).Tells heard := by
  apply Job.tells_cluster.bind
  intro reply heard
  cases reply with
  | ok existing => trivial
  | error fault =>
    dsimp only
    split
    · trivial
    · exact tells_refuse

private theorem tells_mirrorService {ports : List (Option ServicePort)} : (mirrorService timeout eip ports).Tells heard := by
  apply tells_mirroredService.bind
  intro found heard
  cases found with
  | none =>
    apply Announces.log_bind
    apply Job.tells_cluster.bind
    intro written heard
    cases written with
    | ok => trivial
    | error => exact tells_refuse
  | some existing =>
    apply Announces.log_bind
    split
    · trivial
    · apply Job.tells_cluster.bind
      intro written heard
      cases written with
      | ok => trivial
      | error => exact tells_refuse

private theorem tells_publishStatus : (publishStatus timeout eip).Tells heard := by
  apply Job.tells_cluster.bind
  intro found heard
  cases found with
  | error => exact tells_refuse
  | ok service =>
    apply Job.tells_cluster.bind
    intro written heard
    cases written with
    | ok =>
      apply Announces.log_bind
      trivial
    | error => exact tells_refuse

private theorem tells_targetOf {port : ServicePort} : (targetOf port).Tells heard := by
  unfold targetOf
  split
  · trivial
  · trivial
  · apply Announces.log_bind
    trivial
  · trivial

private theorem tells_mirror {space name : String} {first : ServicePort} {others : List (Option ServicePort)} :
    (mirror timeout space name first others eip).Tells heard := by
  apply tells_targetOf.bind
  intro target heard
  apply Job.tells_observePort.bind
  intro desired heard
  apply tells_mirrorEndpoints.bind
  intro _ heard
  apply tells_mirrorService.bind
  intro _ heard
  exact tells_publishStatus

theorem tells_mirrorFirst {mode : Mode} {services : List (Option Service)} :
    (mirrorFirst timeout mode eip services).Tells heard := by
  induction services with
  | nil =>
    unfold mirrorFirst
    split
    · apply Announces.log_bind
      rfl
    · trivial
  | cons place services ih =>
    cases place with
    | none => trivial
    | some service =>
      unfold mirrorFirst
      split
      · trivial
      · split
        · split
          · apply Announces.log_bind
            rfl
          · trivial
          · exact tells_mirror.bind fun _ _ => trivial
        · exact ih

end ServicePass

end ElasticEndpoint
