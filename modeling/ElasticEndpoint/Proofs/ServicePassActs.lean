import ElasticEndpoint.Proofs.NodePassActs
import ElasticEndpoint.ServicePass

/-!
The acts of a service pass. A pass that finds its reservation and the server's service notes the port,
and then makes up to seven calls to the cluster, of which each is made only after those before it.
-/

namespace ElasticEndpoint.ServicePass

open Cluster (Service Endpoints ServicePort ServiceSpec CallFailure)

variable {α β : Type} {acts : List Act} {timeout : Option Duration}

/-- What a call gives whose fault is reported as a problem of the cluster. -/
def reported (message : String) : Except CallFailure α → Except Failure α
  | .ok value => .ok value
  | .error (.fault fault) => .error (.problem (.cluster message fault.description))
  | .error (.crash crash) => .error (.crash crash)

/-- What a look-up gives that may find nothing. -/
def located (message : String) : Except CallFailure α → Except Failure (Option α)
  | .ok value => .ok (some value)
  | .error (.fault fault) => if fault.isNotFound then .ok none else reported message (.error (.fault fault))
  | .error (.crash crash) => .error (.crash crash)

private theorem does_refuse {note message : String} {fault : Cluster.Fault} {result : Except Failure α} :
    Job.Does (refuse note message fault) acts result ↔
      acts = [] ∧ result = .error (.problem (.cluster message fault.description)) := by
  unfold refuse
  rw [Job.does_log_bind, Job.does_problem]

/-- Going on with a call whose fault is refused. -/
theorem does_call_bind {call : Cluster.Call} {next : Except Cluster.Fault call.Reply → Job β} {note message : String}
    (refused : ∀ fault, next (.error fault) = refuse note message fault) {result : Except Failure β} :
    Job.Does (Job.cluster call timeout >>= next) acts result ↔
      ∃ reply rest, acts = .cluster call timeout reply :: rest ∧
        match reported message reply with
        | .ok value => Job.Does (next (.ok value)) rest result
        | .error failure => rest = [] ∧ result = .error failure := by
  rw [Job.does_cluster_bind]
  refine exists_congr fun reply => exists_congr fun rest => and_congr_right fun _ => ?_
  rcases reply with (fault | crash) | value
  · simp only [refused, does_refuse, reported]
  · rfl
  · rfl

private theorem does_call_end {call : Cluster.Call} {next : Except Cluster.Fault call.Reply → Job call.Reply}
    {note message : String} (refused : ∀ fault, next (.error fault) = refuse note message fault)
    (ended : ∀ {value acts result}, Job.Does (next (.ok value)) acts result ↔ acts = [] ∧ result = .ok value)
    {result : Except Failure call.Reply} :
    Job.Does (Job.cluster call timeout >>= next) acts result ↔
      ∃ reply, acts = [.cluster call timeout reply] ∧ result = reported message reply := by
  rw [does_call_bind refused]
  refine exists_congr fun reply => ?_
  cases reported message reply with
  | error failure => exact Job.last_act
  | ok value => simp only [ended, Job.last_act]

private theorem does_mirroredEndpoints {result : Except Failure (Bool × Endpoints)} :
    Job.Does (mirroredEndpoints timeout) acts result ↔
      ∃ reply, acts = [.cluster (.readEndpoints mirrorName mirrorSpace) timeout reply] ∧
        result = (located s!"Failed to get endpoints {mirrorPath}" reply).map fun found =>
          (found.isSome, found.getD newEndpoints) := by
  unfold mirroredEndpoints
  rw [Job.does_cluster_bind]
  refine exists_congr fun reply => ?_
  rcases reply with (fault | crash) | mine
  · by_cases missing : fault.isNotFound = true
    · simp only [missing, ↓reduceIte, Job.does_log_bind, Job.does_pure, located, Except.map, Job.last_act]
      rfl
    · simp only [missing, Bool.false_eq_true, ↓reduceIte, does_refuse, located, reported, Except.map, Job.last_act]
  · simp only [located, Except.map, Job.last_act]
  · simp only [Job.does_pure, located, Except.map, Job.last_act]
    rfl

private theorem does_mirroredService {result : Except Failure (Option Service)} :
    Job.Does (mirroredService timeout) acts result ↔
      ∃ reply, acts = [.cluster (.readService mirrorName mirrorSpace) timeout reply] ∧
        result = located s!"Failed to get service {mirrorPath}" reply := by
  unfold mirroredService
  rw [Job.does_cluster_bind]
  refine exists_congr fun reply => ?_
  rcases reply with (fault | crash) | mine
  · by_cases missing : fault.isNotFound = true
    · simp only [missing, ↓reduceIte, Job.does_pure, located, Job.last_act]
    · simp only [missing, Bool.false_eq_true, ↓reduceIte, does_refuse, located, reported, Job.last_act]
  · simp only [located, Job.last_act]
  · simp only [Job.does_pure, located, Job.last_act]

def repeating (served mine : Endpoints) : Endpoints := { mine with subsets := some (served.subsets.getD []) }

/-- The writing of the mirrored endpoints, which are replaced if they are there and created if not. -/
def endpointsWrite (timeout : Option Duration) (served : Endpoints) (mine : Option Endpoints)
    (written : Except CallFailure Unit) : Act :=
  match mine with
  | some mine => .cluster (.replaceEndpoints mirrorName mirrorSpace (repeating served mine)) timeout written
  | none => .cluster (.createEndpoints mirrorSpace (repeating served newEndpoints)) timeout written

theorem does_mirrorEndpoints {space name : String} {result : Except Failure Unit} :
    Job.Does (mirrorEndpoints timeout space name) acts result ↔
      ∃ reply rest, acts = .cluster (.readEndpoints name space) timeout reply :: rest ∧
        match reported s!"Failed to get endpoints {space}/{name}" reply with
        | .error failure => rest = [] ∧ result = .error failure
        | .ok served => ∃ found later,
          rest = .cluster (.readEndpoints mirrorName mirrorSpace) timeout found :: later ∧
            match located s!"Failed to get endpoints {mirrorPath}" found with
            | .error failure => later = [] ∧ result = .error failure
            | .ok mine => ∃ written, later = [endpointsWrite timeout served mine written] ∧
              result = reported (if mine.isSome then "Failed to update mirrored endpoints"
                else "Failed to create mirrored endpoints") written := by
  unfold mirrorEndpoints
  rw [does_call_bind fun _ => rfl]
  refine exists_congr fun reply => exists_congr fun rest => and_congr_right fun _ => ?_
  cases reported s!"Failed to get endpoints {space}/{name}" reply with
  | error failure => rfl
  | ok served =>
    dsimp only
    rw [Job.does_single_bind does_mirroredEndpoints]
    refine exists_congr fun found => exists_congr fun later => and_congr_right fun _ => ?_
    rcases located s!"Failed to get endpoints {mirrorPath}" found with failure | mine | mine
    · rfl
    · exact does_call_end (fun _ => rfl) Job.does_pure
    · exact does_call_end (fun _ => rfl) Job.does_pure

def updated (eip : String) (ports : List (Option ServicePort)) (existing : Service) (spec : ServiceSpec) : Service :=
  { existing with spec := some { spec with loadBalancerIP := some eip, ports := some ports } }

theorem does_mirrorService {eip : String} {ports : List (Option ServicePort)} {result : Except Failure Unit} :
    Job.Does (mirrorService timeout eip ports) acts result ↔
      ∃ found rest, acts = .cluster (.readService mirrorName mirrorSpace) timeout found :: rest ∧
        match located s!"Failed to get service {mirrorPath}" found with
        | .error failure => rest = [] ∧ result = .error failure
        | .ok none => ∃ written, rest = [.cluster (.createService mirrorSpace (newService eip ports)) timeout written] ∧
          result = reported s!"Failed to create service {mirrorName}" written
        | .ok (some existing) =>
          match existing.spec with
          | none => rest = [] ∧ result = .error (.crash .missingPart)
          | some spec => ∃ written,
            rest = [.cluster (.replaceService mirrorName mirrorSpace (updated eip ports existing spec)) timeout written] ∧
              result = reported s!"Failed to update service {mirrorName}" written := by
  unfold mirrorService
  rw [Job.does_single_bind does_mirroredService]
  refine exists_congr fun found => exists_congr fun rest => and_congr_right fun _ => ?_
  rcases located s!"Failed to get service {mirrorPath}" found with failure | _ | existing
  · rfl
  · exact Job.does_log_bind.trans (does_call_end (fun _ => rfl) Job.does_pure)
  · obtain ⟨metadata, spec, status, others⟩ := existing
    refine Job.does_log_bind.trans ?_
    cases spec with
    | none => exact Job.does_crash
    | some spec => exact does_call_end (fun _ => rfl) Job.does_pure

def published (eip : String) (service : Service) : Service := { service with status := some (ingressStatus eip) }

theorem does_publishStatus {eip : String} {result : Except Failure Unit} :
    Job.Does (publishStatus timeout eip) acts result ↔
      ∃ found rest, acts = .cluster (.readService mirrorName mirrorSpace) timeout found :: rest ∧
        match reported s!"Failed to update status of service {mirrorName}" found with
        | .error failure => rest = [] ∧ result = .error failure
        | .ok service => ∃ written,
          rest = [.cluster (.replaceServiceStatus mirrorName mirrorSpace (published eip service)) timeout written] ∧
            result = reported s!"Failed to update status of service {mirrorName}" written := by
  unfold publishStatus refuseStatus
  rw [does_call_bind fun _ => rfl]
  refine exists_congr fun found => exists_congr fun rest => and_congr_right fun _ => ?_
  cases reported s!"Failed to update status of service {mirrorName}" found with
  | error failure => rfl
  | ok service => exact does_call_end (fun _ => rfl) Job.does_log

/-- The port that a service port points at, if its digits give a number. -/
def targetIn (port : ServicePort) : Except Failure Net.Port :=
  match TargetPort.read port.port port.target with
  | .number target => .ok target
  | .servicePort _ => .ok port.port
  | .notNumber => .error (.crash .unreadableNumber)

private theorem does_targetOf {port : ServicePort} {result : Except Failure Net.Port} :
    Job.Does (targetOf port) acts result ↔ acts = [] ∧ result = targetIn port := by
  unfold targetOf targetIn
  rcases TargetPort.read port.port port.target with target | (_ | warning) | _
  · exact Job.does_pure
  · exact Job.does_pure
  · exact Job.does_log_bind.trans Job.does_pure
  · exact Job.does_crash

private theorem does_logAll {records : List Record} {result : Except Failure Unit} :
    Job.Does (Job.logAll records) acts result ↔ acts = [] ∧ result = .ok () := by
  induction records with
  | nil => exact Job.does_pure
  | cons record records ih => exact Job.does_log_bind.trans ih

/-- An observation of the port is one act, and gives the desired port after it. -/
theorem does_observePort {port : Net.Port} {result : Except Failure Net.Port} :
    Job.Does (Job.observePort port) acts result ↔
      ∃ before : Ports, acts = [⟨.observePort port, before⟩] ∧ result = .ok (before.observe port).desired := by
  unfold Job.observePort
  rw [Job.does_ask_bind rfl]
  refine exists_congr fun (before : Ports) => ?_
  rw [← Job.last_act]
  refine exists_congr fun rest => and_congr_right fun _ => ?_
  exact (Job.does_still_bind does_logAll).trans Job.does_pure

/-- Mirroring notes the port that the first port points at, and then mirrors the endpoints, mirrors the service
and publishes its status. -/
theorem does_mirror {space name eip : String} {first : ServicePort} {others : List (Option ServicePort)}
    {result : Except Failure Unit} :
    Job.Does (mirror timeout space name first others eip) acts result ↔
      match targetIn first with
      | .error failure => acts = [] ∧ result = .error failure
      | .ok target => ∃ (before : Ports) (rest : List Act), acts = ⟨.observePort target, before⟩ :: rest ∧
        Job.Does (do
          mirrorEndpoints timeout space name
          mirrorService timeout eip (some { first with port := (before.observe target).desired } :: others)
          publishStatus timeout eip) rest result := by
  unfold mirror
  rw [Job.does_still_bind does_targetOf]
  cases targetIn first with
  | error failure => rfl
  | ok target => exact Job.does_single_bind does_observePort

/-- The first port of the server's service and the ports after it, if the service is among those handed over. -/
def chosen (mode : Mode) : List (Option Service) → Except Failure (Option (ServicePort × List (Option ServicePort)))
  | [] => if mode = .sync then .error (.problem (.serviceNotFound serverPath)) else .ok none
  | none :: _ => .error (.crash .missingPart)
  | some service :: rest =>
    match service.metadata with
    | none => .error (.crash .missingPart)
    | some metadata =>
      if metadata.space == some serverSpace && metadata.name == some serverName then
        match (service.spec.bind (·.ports)).getD [] with
        | [] => .error (.problem (.serviceWithoutPorts serverPath))
        | none :: _ => .error (.crash .missingPart)
        | some first :: others => .ok (some (first, others))
      else chosen mode rest

/-- Of the services handed over, only the server's is mirrored. -/
theorem does_mirrorFirst {mode : Mode} {eip : String} {services : List (Option Service)}
    {result : Except Failure Outcome} :
    Job.Does (mirrorFirst timeout mode eip services) acts result ↔
      match chosen mode services with
      | .error failure => acts = [] ∧ result = .error failure
      | .ok none => acts = [] ∧ result = .ok .notFound
      | .ok (some (first, others)) => ∃ mirrored,
        Job.Does (mirror timeout serverSpace serverName first others eip) acts mirrored ∧
          result = mirrored.map fun _ => .mirrored := by
  induction services with
  | nil =>
    unfold mirrorFirst chosen
    by_cases full : mode = .sync
    · simp only [full, beq_self_eq_true, ↓reduceIte, Job.does_log_bind, Job.does_problem]
    · simp only [full, beq_iff_eq, ↓reduceIte, Job.does_pure]
  | cons service services ih =>
    cases service with
    | none => exact Job.does_crash
    | some service =>
      obtain ⟨metadata, spec, status, others⟩ := service
      cases metadata with
      | none => exact Job.does_crash
      | some metadata =>
        unfold mirrorFirst chosen
        dsimp only
        by_cases server : (metadata.space == some serverSpace && metadata.name == some serverName) = true
        · simp only [server, ↓reduceIte]
          rcases (spec.bind (·.ports)).getD [] with _ | ⟨_ | first, others⟩
          · exact Job.does_log_bind.trans Job.does_problem
          · exact Job.does_crash
          · exact Job.does_bind_pure
        · simp only [server, Bool.false_eq_true, ↓reduceIte]
          exact ih

/-- A service pass lists the reservations, and goes on with the first one that carries the tag. -/
theorem does_run {setup : Setup} {mode : Mode} {services : List (Option Service)} {result : Except Failure Outcome} :
    Job.Does (run setup services mode) acts result ↔
      if setup.tag.isEmpty then acts = [] ∧ result = .error (.problem .noTag)
      else ∃ reply rest, acts = .metal (.list setup.project true) reply :: rest ∧
        match reply.map (Reservation.firstWith [setup.tag]) with
        | .error failure => rest = [] ∧ result = .error failure
        | .ok none => rest = [] ∧ result = .ok .noReservation
        | .ok (some reservation) =>
          if 1 < reservation.assignments.length then
            rest = [] ∧
              result = .error (.problem (.multipleAssignment reservation.id reservation.assignments.length))
          else Job.Does (mirrorFirst setup.timeout mode reservation.address services) rest result := by
  unfold run
  by_cases blank : setup.tag.isEmpty = true
  · rw [if_pos blank]
    exact Job.does_still_bind (Resolver.does_resolve_untagged blank)
  · rw [if_neg blank, Job.does_single_bind (Resolver.does_resolve_tag (by simpa using blank))]
    refine exists_congr fun reply => exists_congr fun rest => and_congr_right fun _ => ?_
    rcases reply.map (Reservation.firstWith [setup.tag]) with failure | _ | reservation
    · rfl
    · exact Job.does_pure
    · exact NodePass.does_refuseMultiple_bind

end ElasticEndpoint.ServicePass
