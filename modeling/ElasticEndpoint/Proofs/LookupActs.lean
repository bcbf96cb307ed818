import ElasticEndpoint.Proofs.Acts
import ElasticEndpoint.Health
import ElasticEndpoint.Instance
import ElasticEndpoint.Resolver

/-!
Acts of looking things up. A health check, a look-up of a node and a listing of reservations are one
request each, and their result is a function of the reply.
-/

namespace ElasticEndpoint

namespace Health

/-- What the outcome of a health request comes to. -/
def ofOutcome : Http.Outcome → Except Failure Health
  | .broken text => .error (.crash (.system text))
  | .failed kind text => .ok (.unreachable s!"{kind}: {text}")
  | .answered status _ => .ok (.answered status)

theorem does_probe {timeout : Option Duration} {url : String} {acts : List Act} {result : Except Failure Health} :
    Job.Does (probe timeout url) acts result ↔
      ∃ outcome, acts = [.http (request timeout url) outcome] ∧ result = ofOutcome outcome := by
  unfold probe
  rw [Job.does_log_bind, Job.does_http_bind]
  refine exists_congr fun outcome => ?_
  cases outcome with
  | broken text => simp only [Job.does_crash, Job.last_act, ofOutcome]
  | failed kind text => simp only [Job.does_log_bind, Job.does_pure, Job.last_act, ofOutcome]
  | answered status body =>
    by_cases fine : status = 200 <;>
      simp only [fine, bne_self_eq_false, bne_iff_ne, ne_eq, not_false_eq_true, Bool.false_eq_true, ↓reduceIte,
        Job.does_log_bind, Job.does_pure, Job.last_act, ofOutcome]

end Health

namespace Instance

/-- The node object that a reply gives, or what the look-up fails with. -/
def nodeIn (name : Option String) : Except Cluster.CallFailure Cluster.Node → Except Failure Cluster.Node
  | .ok node => .ok node
  | .error (.fault fault) =>
    .error (.problem (.instanceLookup s!"Failed to read node {shownName name}" fault.description))
  | .error (.crash crash) => .error (.crash crash)

/-- The addresses that a node reports; a blank one cannot be looked at. -/
def addressesOf (node : Cluster.Node) : Except Failure (List NodeAddress) :=
  match node.addresses.mapM id with
  | some reported => .ok (reported.filterMap nodeAddress?)
  | none => .error (.crash .missingPart)

/-- The device that a provider identity gives for a node. -/
def deviceNamed (name provider : Option String) : Except Failure String :=
  match provider.filter (!·.isEmpty) with
  | none => .error (.problem (.instanceLookup s!"Node {shownName name} has no provider ID"
      "The cloud controller manager has not initialised this node yet"))
  | some provider =>
    match deviceOf provider with
    | .ok device => .ok device
    | .error problem => .error (.problem problem)

/-- The addresses that a reply gives for a node. -/
def addressesIn (name : Option String) (reply : Except Cluster.CallFailure Cluster.Node) :
    Except Failure (List NodeAddress) :=
  match nodeIn name reply with
  | .ok node => addressesOf node
  | .error failure => .error failure

/-- The device that a reply gives for a node. -/
def deviceIn (name : Option String) (reply : Except Cluster.CallFailure Cluster.Node) : Except Failure String :=
  match nodeIn name reply with
  | .ok node => deviceNamed name node.provider
  | .error failure => .error failure

/-- Reading a node and going on with it. -/
theorem does_readNode_bind {α : Type} {timeout : Option Duration} {name : Option String}
    {next : Cluster.Node → Job α} {acts : List Act} {result : Except Failure α} :
    Job.Does (readNode timeout name >>= next) acts result ↔
      ∃ reply rest, acts = .cluster (.readNode name) timeout reply :: rest ∧
        match nodeIn name reply with
        | .ok node => Job.Does (next node) rest result
        | .error failure => rest = [] ∧ result = .error failure := by
  unfold readNode
  rw [bind_assoc, Job.does_cluster_bind]
  refine exists_congr fun reply => exists_congr fun rest => and_congr_right fun _ => ?_
  rcases reply with (fault | crash) | node
  · simp only [nodeIn, bind_assoc, Job.does_log_bind, Job.does_problem_bind]
  · simp only [nodeIn]
  · simp only [nodeIn, Job.does_pure_bind]

theorem does_nodeAddresses {timeout : Option Duration} {name : Option String} {acts : List Act}
    {result : Except Failure (List NodeAddress)} :
    Job.Does (nodeAddresses timeout name) acts result ↔
      ∃ reply, acts = [.cluster (.readNode name) timeout reply] ∧ result = addressesIn name reply := by
  unfold nodeAddresses addressesIn
  rw [does_readNode_bind]
  refine exists_congr fun reply => ?_
  cases nodeIn name reply with
  | error failure => exact Job.last_act
  | ok node =>
    unfold addressesOf
    cases reported : node.addresses.mapM id with
    | some addresses => simp only [reported, Job.does_pure, Job.last_act]
    | none => simp only [reported, Job.does_crash, Job.last_act]

theorem does_instanceId {timeout : Option Duration} {name : Option String} {acts : List Act}
    {result : Except Failure String} :
    Job.Does (instanceId timeout name) acts result ↔
      ∃ reply, acts = [.cluster (.readNode name) timeout reply] ∧ result = deviceIn name reply := by
  unfold instanceId instanceId.missing deviceIn
  rw [does_readNode_bind]
  refine exists_congr fun reply => ?_
  cases nodeIn name reply with
  | error failure => exact Job.last_act
  | ok node =>
    dsimp only
    rcases node.provider with _ | provider
    · simp only [deviceNamed, Option.filter_none, Job.does_problem, Job.last_act]
    · by_cases blank : provider.isEmpty = true
      · simp only [deviceNamed, blank, ↓reduceIte, Option.filter_some, Bool.not_true, Bool.false_eq_true,
          Job.does_problem, Job.last_act]
      · cases named : deviceOf provider <;>
          simp only [deviceNamed, blank, named, Bool.false_eq_true, ↓reduceIte, Option.filter_some, Bool.not_false,
            Job.does_pure, Job.does_problem, Job.last_act]

end Instance

namespace Resolver

/-- The tags that count. -/
def wanted (tags : List String) : List String := tags.filter (!·.isEmpty)

theorem does_resolve {project : String} {tags : List String} {acts : List Act}
    {result : Except Failure (Option Reservation)} :
    Job.Does (resolve project tags) acts result ↔
      if wanted tags = [] then acts = [] ∧ result = .error (.problem .noTag)
      else ∃ reply, acts = [.metal (.list project true) reply] ∧
        result = reply.map (Reservation.firstWith (wanted tags)) := by
  unfold resolve wanted
  dsimp only
  generalize tags.filter (!·.isEmpty) = wanted
  by_cases none : wanted = []
  · simp only [none, List.isEmpty_nil, ↓reduceIte, Job.does_problem]
  · simp only [none, List.isEmpty_iff, ↓reduceIte]
    rw [Job.does_metal_bind]
    constructor
    · rintro (⟨failure, rfl, rfl⟩ | ⟨reservations, rest, rfl, later⟩)
      · exact ⟨.error failure, rfl, rfl⟩
      · refine ⟨.ok reservations, ?_⟩
        cases found : Reservation.firstWith wanted reservations <;>
          · simp only [found, Job.does_log_bind, Job.does_pure] at later
            simp [later, Except.map, found]
    · rintro ⟨failure | reservations, rfl, rfl⟩
      · exact .inl ⟨failure, rfl, rfl⟩
      · refine .inr ⟨reservations, [], rfl, ?_⟩
        cases found : Reservation.firstWith wanted reservations <;>
          simp only [found, Except.map, Job.does_log_bind, Job.does_pure, and_self]

/-- A single tag that is not empty is looked for in one listing. -/
theorem does_resolve_tag {project tag : String} (tagged : tag.isEmpty = false) {acts : List Act}
    {result : Except Failure (Option Reservation)} :
    Job.Does (resolve project [tag]) acts result ↔
      ∃ reply, acts = [.metal (.list project true) reply] ∧ result = reply.map (Reservation.firstWith [tag]) := by
  have counts : wanted [tag] = [tag] := by simp [wanted, tagged]
  rw [does_resolve, counts, if_neg (by simp)]

/-- Without a tag there is nothing to look for. -/
theorem does_resolve_untagged {project tag : String} (blank : tag.isEmpty = true) {acts : List Act}
    {result : Except Failure (Option Reservation)} :
    Job.Does (resolve project [tag]) acts result ↔ acts = [] ∧ result = .error (.problem .noTag) := by
  have none : wanted [tag] = [] := by simp [wanted, blank]
  rw [does_resolve, if_pos none]

end Resolver

end ElasticEndpoint
