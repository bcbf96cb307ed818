import ElasticEndpoint.Proofs.CrashOrigin
import ElasticEndpoint.Proofs.Quiet
import ElasticEndpoint.Proofs.ServiceWrites

/-!
Worlds without crashes. Where only faults are due and all objects are well-formed, no request of a sync is
answered with a crash, and what a sync writes is well-formed again.
-/

namespace ElasticEndpoint

open Cluster (Service Endpoints Node)
open ServicePass (isMirror mirrorName mirrorSpace Publishing)

namespace Http.Script

/-- No request to a server breaks. -/
def IsWhole : Script → Prop
  | .inOrder outcomes => ∀ outcome ∈ outcomes, ∀ text, outcome ≠ .broken text
  | .byTarget queues => ∀ entry ∈ queues, ∀ outcome ∈ entry.2, ∀ text, outcome ≠ .broken text

private theorem mem_of_lookup {queues : List (String × List Outcome)} {target : String} {outcomes : List Outcome}
    (found : queues.lookup target = some outcomes) : ∃ name, (name, outcomes) ∈ queues := by
  induction queues with
  | nil => cases found
  | cons entry queues ih =>
    rw [List.lookup_cons] at found
    split at found
    · cases found
      exact ⟨entry.1, List.mem_cons_self⟩
    · obtain ⟨name, member⟩ := ih found
      exact ⟨name, List.mem_cons_of_mem _ member⟩

theorem IsWhole.serve {script : Script} (whole : script.IsWhole) (request : Request) :
    (∀ text, (script.serve request).1 ≠ .broken text) ∧ (script.serve request).2.IsWhole := by
  cases script with
  | inOrder outcomes =>
    cases outcomes with
    | nil => exact ⟨fun _ => nofun, whole⟩
    | cons outcome rest => exact List.forall_mem_cons.mp whole
  | byTarget queues =>
    simp only [Script.serve]
    split
    · exact ⟨fun _ => nofun, whole⟩
    · exact ⟨fun _ => nofun, whole⟩
    · obtain ⟨name, member⟩ := mem_of_lookup ‹_›
      exact ⟨whole _ member _ List.mem_cons_self, whole⟩
    · obtain ⟨name, member⟩ := mem_of_lookup ‹_›
      obtain ⟨first, others⟩ := List.forall_mem_cons.mp (whole _ member)
      refine ⟨first, fun entry listed => ?_⟩
      obtain ⟨former, among, rfl⟩ := List.mem_map.mp listed
      split
      · exact others
      · exact whole former among

end Http.Script

namespace Schedule

variable {κ φ : Type} [DecidableEq κ] {schedule : Schedule κ φ} {kind other : κ}

private theorem due_mem {failure : φ} (due : (schedule.next kind).1 = some failure) : some failure ∈ schedule kind := by
  unfold next at due
  split at due
  · cases due
  · rw [‹schedule kind = _›, ← due]
    exact List.mem_cons_self

private theorem mem_of_next {due : Option φ} (member : due ∈ (schedule.next kind).2 other) : due ∈ schedule other := by
  unfold next at member
  split at member
  · exact member
  · dsimp only at member
    split at member
    · subst other
      rw [‹schedule kind = _›]
      exact List.mem_cons_of_mem _ member
    · exact member

end Schedule

/-- The place of a service that is there, and has a specification if it is the mirror. -/
def Cluster.IsKept (place : Option Service) : Prop :=
  ∃ service, place = some service ∧ (isMirror service.metadata = true → ∃ spec, service.spec = some spec)

/-- The place of a node that is there, with metadata and addresses of which none is blank. -/
def Cluster.IsNamedNode (place : Option Node) : Prop :=
  ∃ node, place = some node ∧ (∃ metadata, node.metadata = some metadata) ∧
    ∃ reported, node.addresses.mapM id = some reported

/-- Only faults are due, no request to a server breaks, and all objects are well-formed. -/
structure World.IsWellFormed (world : World) : Prop where
  clusterFaults : ∀ kind crash, some (.crash crash) ∉ world.clusterFaults kind
  metalFaults : ∀ kind crash, some (.crash crash) ∉ world.metalFaults kind
  script : world.script.IsWhole
  services : ∀ place ∈ world.cluster.services, Cluster.IsKept place
  endpoints : none ∉ world.cluster.endpoints
  nodes : ∀ place ∈ world.cluster.nodes, Cluster.IsNamedNode place

/-- The requests that leave well-formed objects behind, and look only at such. -/
def Request.IsFormed : Request → Prop
  | .leaveGuard | .cluster .listServices _ => False
  | .cluster (.readService name space) _ => name = mirrorName ∧ space = mirrorSpace
  | .cluster (.createService _ body) _ | .cluster (.replaceService _ _ body) _ => ∃ spec, body.spec = some spec
  | _ => True

theorem Request.isFormed_of_work {request : Request} (work : request.isNodeWork = true) : request.IsFormed := by
  cases request with
  | cluster call timeout =>
    cases call with
    | readNode name => trivial
    | _ => cases work
  | leaveGuard => cases work
  | _ => trivial

theorem ServicePass.formed_run (setup : Setup) (services : List (Option Service)) (mode : Mode) :
    (run setup services mode).Uses Request.IsFormed := by
  apply Program.Honours.uses
  apply honours_run
  · exact fun _ => trivial
  · trivial
  · exact fun _ => trivial
  · intro before target _ eip first others call publishing
    cases publishing with
    | readService => exact ⟨rfl, rfl⟩
    | createService => exact ⟨_, rfl⟩
    | replaceService _ existing spec => exact ⟨_, rfl⟩
    | readEndpoints | createEndpoints | replaceEndpoints | replaceStatus => trivial

/-- An act that is sound and tells of no crash. -/
def Act.IsGood (act : Act) : Prop := act.IsSound ∧ act.crash? = none

namespace Cluster.Store

variable {store : Store} {timeout : Option Duration}

private theorem not_isKept_none : ¬IsKept none := by
  rintro ⟨service, impossible, -⟩
  cases impossible

section

variable (sound : Except CallFailure Unit → Prop) (refused : ∀ fault, sound (.error (.fault fault)))
  (done : sound (.ok ())) (services : ∀ place ∈ store.services, IsKept place) (endpoints : none ∉ store.endpoints)

include refused done services endpoints

private theorem formed_withServices {written : Except CallFailure (List (Option Service))} (leaves : Leaves IsKept written) :
    sound (store.withServices written).1 ∧ (∀ place ∈ (store.withServices written).2.services, IsKept place) ∧
      none ∉ (store.withServices written).2.endpoints := by
  cases leaves with
  | refused fault => exact ⟨refused fault, services, endpoints⟩
  | written all => exact ⟨done, all, endpoints⟩

private theorem formed_withEndpoints {written : Except CallFailure (List (Option Endpoints))}
    (leaves : Leaves (· ≠ none) written) :
    sound (store.withEndpoints written).1 ∧ (∀ place ∈ (store.withEndpoints written).2.services, IsKept place) ∧
      none ∉ (store.withEndpoints written).2.endpoints := by
  cases leaves with
  | refused fault => exact ⟨refused fault, services, endpoints⟩
  | written all => exact ⟨done, services, List.forall_mem_ne'.mp all⟩

end

/-- A call on well-formed objects comes to a fault or a well-formed reply, and leaves well-formed objects. -/
theorem perform_formed {call : Call}
    (asked : Request.IsFormed (.cluster call timeout) ∨
      call = .listServices ∧ Call.IsWellFormed .listServices store.services)
    (services : ∀ place ∈ store.services, IsKept place) (endpoints : none ∉ store.endpoints)
    (nodes : ∀ place ∈ store.nodes, IsNamedNode place) :
    Act.IsSound (.cluster call timeout (perform call store).1) ∧
      (∀ place ∈ (perform call store).2.services, IsKept place) ∧ none ∉ (perform call store).2.endpoints := by
  have fullServices : none ∉ store.services := fun blank => not_isKept_none (services none blank)
  have present := List.forall_mem_ne'.mpr endpoints
  have fullNodes : none ∉ store.nodes := by
    intro blank
    obtain ⟨node, impossible, -⟩ := nodes none blank
    cases impossible
  cases call with
  | listServices => exact ⟨(asked.resolve_left id).2, services, endpoints⟩
  | listNodes =>
    refine ⟨fun place member => ?_, services, endpoints⟩
    obtain ⟨node, same, named, -⟩ := nodes place member
    exact ⟨node, same, named⟩
  | readNode name =>
    refine ⟨?_, services, endpoints⟩
    simp only [perform]
    rcases require_full fullNodes fun node => nameOf node.metadata == name with missing | ⟨node, found, member, -⟩
    · rw [missing]
      trivial
    · rw [found]
      obtain ⟨other, same, -, reported⟩ := nodes _ member
      cases same
      exact reported
  | readEndpoints name space =>
    refine ⟨?_, services, endpoints⟩
    simp only [perform]
    rcases require_full endpoints fun object => isNamed (some name) space object.metadata with missing | ⟨_, found, -⟩
    · rw [missing]
      trivial
    · rw [found]
      trivial
  | readService name space =>
    refine ⟨?_, services, endpoints⟩
    obtain ⟨rfl, rfl⟩ := asked.resolve_right (by rintro ⟨⟨⟩, -⟩)
    simp only [perform]
    rcases require_full fullServices fun service => isMirror service.metadata with missing | ⟨_, found, member, mirror⟩
    · rw [missing]
      trivial
    · rw [found]
      obtain ⟨service, same, specified⟩ := services _ member
      cases same
      exact specified mirror
  | createEndpoints space body =>
    apply formed_withEndpoints (Act.IsSound <| .cluster (.createEndpoints space body) timeout ·) (fun _ => trivial) trivial services endpoints
    exact leaves_add (fun absent => absent rfl) present _ body (Option.some_ne_none body)
  | replaceEndpoints name space body =>
    apply formed_withEndpoints (Act.IsSound <| .cluster (.replaceEndpoints name space body) timeout ·) (fun _ => trivial) trivial services endpoints
    exact leaves_change (fun absent => absent rfl) present _ (fun _ => body) fun _ _ => Option.some_ne_none body
  | createService space body =>
    have specified := asked.resolve_right (by rintro ⟨⟨⟩, -⟩)
    apply formed_withServices (Act.IsSound <| .cluster (.createService space body) timeout ·) (fun _ => trivial) trivial services endpoints
    exact leaves_add not_isKept_none services _ body ⟨body, rfl, fun _ => specified⟩
  | replaceService name space body =>
    have specified := asked.resolve_right (by rintro ⟨⟨⟩, -⟩)
    apply formed_withServices (Act.IsSound <| .cluster (.replaceService name space body) timeout ·) (fun _ => trivial) trivial services endpoints
    exact leaves_change not_isKept_none services _ _ fun _ _ => ⟨_, rfl, fun _ => specified⟩
  | replaceServiceStatus name space body =>
    apply formed_withServices (Act.IsSound <| .cluster (.replaceServiceStatus name space body) timeout ·) (fun _ => trivial) trivial services endpoints
    apply leaves_change not_isKept_none services
    intro old kept
    obtain ⟨service, same, specified⟩ := kept
    cases same
    exact ⟨_, rfl, specified⟩

end Cluster.Store

namespace World

variable {world : World}

/-- A request that keeps to well-formed objects, or lists services that are. -/
def Serves (world : World) (request : Request) : Prop :=
  request.IsFormed ∨ ∃ timeout, request = .cluster .listServices timeout ∧
    Cluster.Call.IsWellFormed .listServices world.cluster.services

/-- A well-formed world answers well, and stays well-formed. -/
theorem IsWellFormed.answer (formed : world.IsWellFormed) {request : Request}
    (asked : world.Serves request) :
    Act.IsGood ⟨request, (World.answer request world).1⟩ ∧ (World.answer request world).2.IsWellFormed := by
  cases request with
  | cluster call timeout =>
    simp only [World.answer, note]
    have queues : ∀ kind crash, some (.crash crash) ∉ (world.clusterFaults.next call.method).2 kind :=
      fun kind crash member => formed.clusterFaults kind crash (Schedule.mem_of_next member)
    rcases due : world.clusterFaults.next call.method with ⟨_ | failure, faults⟩
    · rw [due] at queues
      have known : Request.IsFormed (.cluster call timeout) ∨
          call = .listServices ∧ Cluster.Call.IsWellFormed .listServices world.cluster.services := by
        rcases asked with usual | ⟨_, same, listed⟩
        · exact .inl usual
        · cases same
          exact .inr ⟨rfl, listed⟩
      obtain ⟨sound, services, endpoints⟩ :=
        Cluster.Store.perform_formed known formed.services formed.endpoints formed.nodes
      refine ⟨⟨sound, rfl⟩, queues, formed.metalFaults, formed.script, services, endpoints, ?_⟩
      dsimp only
      rw [nodes_perform]
      exact formed.nodes
    · rw [due] at queues
      cases failure with
      | crash crash => exact absurd (Schedule.due_mem (congrArg Prod.fst due)) (formed.clusterFaults _ crash)
      | fault fault =>
        exact ⟨⟨trivial, rfl⟩, queues, formed.metalFaults, formed.script, formed.services, formed.endpoints, formed.nodes⟩
  | metal call =>
    simp only [World.answer, note]
    have queues : ∀ kind crash, some (.crash crash) ∉ (world.metalFaults.next call.method).2 kind :=
      fun kind crash member => formed.metalFaults kind crash (Schedule.mem_of_next member)
    rcases due : world.metalFaults.next call.method with ⟨_ | failure, faults⟩
    · rw [due] at queues
      exact ⟨⟨trivial, rfl⟩, formed.clusterFaults, queues, formed.script, formed.services, formed.endpoints, formed.nodes⟩
    · rw [due] at queues
      cases failure with
      | crash crash => exact absurd (Schedule.due_mem (congrArg Prod.fst due)) (formed.metalFaults _ crash)
      | problem problem =>
        exact ⟨⟨trivial, rfl⟩, formed.clusterFaults, queues, formed.script, formed.services, formed.endpoints,
          formed.nodes⟩
  | http request =>
    obtain ⟨sound, whole⟩ := formed.script.serve request
    refine ⟨⟨?_, rfl⟩, formed.clusterFaults, formed.metalFaults, whole, formed.services, formed.endpoints, formed.nodes⟩
    change Act.IsSound (.http request (world.script.serve request).1)
    cases served : (world.script.serve request).1 with
    | broken text => exact absurd served (sound text)
    | answered | failed => trivial
  | leaveGuard =>
    rcases asked with impossible | ⟨_, impossible, -⟩
    · exact impossible.elim
    · cases impossible
  | _ =>
    exact ⟨⟨trivial, rfl⟩, formed.clusterFaults, formed.metalFaults, formed.script, formed.services, formed.endpoints,
      formed.nodes⟩

theorem IsWellFormed.told (formed : world.IsWellFormed) {call : Cluster.Call} {timeout : Option Duration}
    (asked : world.Serves (.cluster call timeout)) :
    ∃ (given : Except Cluster.Fault call.Reply) (after : World),
      World.answer (.cluster call timeout) world = (given.mapError .fault, after) ∧
        Act.IsGood (.cluster call timeout (given.mapError .fault)) ∧ after.IsWellFormed := by
  obtain ⟨good, kept⟩ := formed.answer asked
  rcases told : World.answer (.cluster call timeout) world with ⟨(fault | crash) | value, after⟩
  · rw [told] at good kept
    exact ⟨.error fault, after, rfl, good, kept⟩
  · rw [told] at good
    exact good.1.elim
  · rw [told] at good kept
    exact ⟨.ok value, after, rfl, good, kept⟩

theorem IsWellFormed.run (formed : world.IsWellFormed) {α : Type} {job : Job α} (uses : job.Uses Request.IsFormed) :
    (∀ act ∈ world.acts job, act.IsGood) ∧ (world.run job).2.IsWellFormed := by
  have answered := Program.answers_history World.answer job world
  obtain ⟨good, last⟩ := answered.along (uses.ends (Program.ends_history World.answer job world))
    (fun request state asked kept => IsWellFormed.answer kept (.inl asked)) formed
  exact ⟨fun act member => good act (List.mem_filter.mp member).1, last⟩

end World

end ElasticEndpoint
