import ElasticEndpoint.Proofs.LookupActs
import ElasticEndpoint.Failover

/-!
The acts of a failover. A failover first searches: it looks up nodes and checks addresses, and changes
nothing. Only a healthy address ends the search in a hand-over, which looks up the device of its node
and then makes at most two changes.
-/

namespace ElasticEndpoint.Failover

abbrev look (limits : Limits) (name : Option String) (reply : Except Cluster.CallFailure Cluster.Node) : Act :=
  .cluster (.readNode name) limits.api reply

abbrev check (limits : Limits) (port : Net.Port) (address : String) (outcome : Http.Outcome) : Act :=
  .http (Health.request limits.probe (Net.healthUrl address port)) outcome

/-- An address is checked unless it is a host name or has the health address of the elastic one. -/
def isCandidate (port : Net.Port) (eipUrl : String) (address : NodeAddress) : Bool :=
  address.isProbeTarget && Net.healthUrl address.address port != eipUrl

/-- What a search comes to: a failure, a number of addresses that are all unhealthy, or a healthy
address of a node. -/
inductive Finding where
  | lost (failure : Failure)
  | nothing (checked : Nat)
  | found (node : Option String) (address : String)

def Finding.after (count : Nat) : Finding → Finding
  | .nothing checked => .nothing (count + checked)
  | finding => finding

section

variable (limits : Limits) (port : Net.Port) (eipUrl : String)

/-- The checks of the addresses of one node, and what they come to. -/
inductive Sweep (node : Option String) : List NodeAddress → List Act → Finding → Prop where
  | spent : Sweep node [] [] (.nothing 0)
  | skipped {address addresses acts finding} (passed : isCandidate port eipUrl address = false)
      (rest : Sweep node addresses acts finding) : Sweep node (address :: addresses) acts finding
  | unhealthy {address addresses outcome health acts finding} (candidate : isCandidate port eipUrl address = true)
      (answer : Health.ofOutcome outcome = .ok health) (sick : health.isHealthy = false)
      (rest : Sweep node addresses acts finding) :
      Sweep node (address :: addresses) (check limits port address.address outcome :: acts) (finding.after 1)
  | healthy {address addresses outcome health} (candidate : isCandidate port eipUrl address = true)
      (answer : Health.ofOutcome outcome = .ok health) (well : health.isHealthy = true) :
      Sweep node (address :: addresses) [check limits port address.address outcome] (.found node address.address)
  | broken {address addresses outcome failure} (candidate : isCandidate port eipUrl address = true)
      (answer : Health.ofOutcome outcome = .error failure) :
      Sweep node (address :: addresses) [check limits port address.address outcome] (.lost failure)

/-- The look-ups and checks of a search over nodes, and what they come to. -/
inductive Search : List (Option Cluster.Node) → List Act → Finding → Prop where
  | spent : Search [] [] (.nothing 0)
  | blank {node nodes} (missing : node.bind (·.metadata) = none) :
      Search (node :: nodes) [] (.lost (.crash .missingPart))
  | unread {node nodes metadata reply failure} (present : node.bind (·.metadata) = some metadata)
      (answer : Instance.addressesIn metadata.name reply = .error failure) :
      Search (node :: nodes) [look limits metadata.name reply] (.lost failure)
  | ended {node nodes metadata reply addresses acts finding} (present : node.bind (·.metadata) = some metadata)
      (answer : Instance.addressesIn metadata.name reply = .ok addresses)
      (swept : Sweep limits port eipUrl metadata.name addresses acts finding)
      (last : ∀ count, finding ≠ .nothing count) :
      Search (node :: nodes) (look limits metadata.name reply :: acts) finding
  | passed {node nodes metadata reply addresses acts count more finding}
      (present : node.bind (·.metadata) = some metadata)
      (answer : Instance.addressesIn metadata.name reply = .ok addresses)
      (swept : Sweep limits port eipUrl metadata.name addresses acts (.nothing count))
      (rest : Search nodes more finding) :
      Search (node :: nodes) (look limits metadata.name reply :: (acts ++ more)) (finding.after count)

end

/-- What follows a finding, once some addresses were checked before. -/
def Concludes (limits : Limits) (reservation : Reservation) (count : Nat) :
    Finding → List Act → Except Failure Trial → Prop
  | .lost failure, acts, result => acts = [] ∧ result = .error failure
  | .nothing checked, acts, result => acts = [] ∧ result = .ok (.checked (count + checked))
  | .found node address, acts, result =>
    ∃ moved, Job.Does (handOver limits reservation node address) acts moved ∧ result = moved.map .moved

theorem Concludes.after {limits : Limits} {reservation : Reservation} {count more : Nat} {finding : Finding}
    {acts : List Act} {result : Except Failure Trial}
    (concluded : Concludes limits reservation (count + more) finding acts result) :
    Concludes limits reservation count (finding.after more) acts result := by
  cases finding with
  | lost failure => exact concluded
  | nothing checked => exact ⟨concluded.1, by rw [concluded.2, Nat.add_assoc]⟩
  | found node address => exact concluded

variable {limits : Limits} {port : Net.Port} {reservation : Reservation} {eipUrl : String}

private theorem does_tryAddresses {node : Option String} {count : Nat} {addresses : List NodeAddress} {acts : List Act}
    {result : Except Failure Trial}
    (done : Job.Does (tryAddresses limits port reservation eipUrl node count addresses) acts result) :
    ∃ checks finding closing, acts = checks ++ closing ∧ Sweep limits port eipUrl node addresses checks finding ∧
      Concludes limits reservation count finding closing result := by
  induction addresses generalizing count acts with
  | nil =>
    obtain ⟨rfl, rfl⟩ := Job.does_pure.mp done
    exact ⟨[], .nothing 0, [], rfl, .spent, rfl, rfl⟩
  | cons address addresses ih =>
    unfold tryAddresses at done
    by_cases target : address.isProbeTarget = true
    · simp only [target, Bool.not_true, Bool.false_eq_true, ↓reduceIte] at done
      by_cases elastic : (Net.healthUrl address.address port == eipUrl) = true
      · simp only [elastic, ↓reduceIte, Job.does_log_bind] at done
        obtain ⟨checks, finding, closing, rfl, swept, concluded⟩ := ih done
        exact ⟨checks, finding, closing, rfl, .skipped (by simp [isCandidate, elastic, bne]) swept, concluded⟩
      · have candidate : isCandidate port eipUrl address = true := by simp [isCandidate, target, elastic, bne]
        simp only [elastic, Bool.false_eq_true, ↓reduceIte, Job.does_log_bind] at done
        obtain ⟨outcome, rest, rfl, later⟩ := (Job.does_single_bind Health.does_probe).mp done
        cases answer : Health.ofOutcome outcome with
        | error failure =>
          simp only [answer] at later
          obtain ⟨rfl, rfl⟩ := later
          exact ⟨[_], .lost failure, [], rfl, .broken candidate answer, rfl, rfl⟩
        | ok health =>
          simp only [answer] at later
          by_cases well : health.isHealthy = true
          · simp only [well, ↓reduceIte] at later
            exact ⟨[_], .found node address.address, rest, rfl, .healthy candidate answer well,
              Job.does_bind_pure.mp later⟩
          · simp only [well, Bool.false_eq_true, ↓reduceIte] at later
            have tried : Job.Does (tryAddresses limits port reservation eipUrl node (count + 1) addresses) rest result := by
              cases health <;> simpa only [Job.does_log_bind, Job.does_pure_bind] using later
            obtain ⟨checks, finding, closing, rfl, swept, concluded⟩ := ih tried
            exact ⟨_ :: checks, finding.after 1, closing, rfl, .unhealthy candidate answer (by simpa using well) swept,
              concluded.after⟩
    · simp only [target, Bool.not_false, ↓reduceIte, Job.does_log_bind] at done
      obtain ⟨checks, finding, closing, rfl, swept, concluded⟩ := ih done
      exact ⟨checks, finding, closing, rfl, .skipped (by simp [isCandidate, target]) swept, concluded⟩

private theorem does_tryNodes {count : Nat} {nodes : List (Option Cluster.Node)} {acts : List Act}
    {result : Except Failure Trial} (done : Job.Does (tryNodes limits port reservation eipUrl count nodes) acts result) :
    ∃ sought finding closing, acts = sought ++ closing ∧ Search limits port eipUrl nodes sought finding ∧
      Concludes limits reservation count finding closing result := by
  induction nodes generalizing count acts with
  | nil =>
    obtain ⟨rfl, rfl⟩ := Job.does_pure.mp done
    exact ⟨[], .nothing 0, [], rfl, .spent, rfl, rfl⟩
  | cons node nodes ih =>
    unfold tryNodes at done
    cases present : node.bind (·.metadata) with
    | none =>
      simp only [present] at done
      obtain ⟨rfl, rfl⟩ := Job.does_crash.mp done
      exact ⟨[], .lost (.crash .missingPart), [], rfl, .blank present, rfl, rfl⟩
    | some metadata =>
      simp only [present] at done
      obtain ⟨reply, rest, rfl, later⟩ := (Job.does_single_bind Instance.does_nodeAddresses).mp done
      cases answer : Instance.addressesIn metadata.name reply with
      | error failure =>
        simp only [answer] at later
        obtain ⟨rfl, rfl⟩ := later
        exact ⟨[_], .lost failure, [], rfl, .unread present answer, rfl, rfl⟩
      | ok addresses =>
        simp only [answer] at later
        rw [Job.does_bind] at later
        rcases later with ⟨failure, rfl, tried⟩ | ⟨trial, first, after, rfl, tried, later⟩
        · obtain ⟨checks, finding, closing, rfl, swept, concluded⟩ := does_tryAddresses tried
          refine ⟨_ :: checks, finding, closing, rfl, .ended present answer swept ?_, ?_⟩
          · rintro checked rfl
            cases concluded.2
          · exact concluded
        · obtain ⟨checks, finding, closing, rfl, swept, concluded⟩ := does_tryAddresses tried
          cases finding with
          | lost failure => cases concluded.2
          | nothing checked =>
            obtain ⟨rfl, same⟩ := concluded
            cases same
            obtain ⟨more, finding, closing, rfl, searched, concluded⟩ := ih later
            exact ⟨_, finding.after checked, closing, by simp, .passed present answer swept searched, concluded.after⟩
          | found node address =>
            obtain ⟨moved, handed, same⟩ := concluded
            cases moved with
            | error failure => cases same
            | ok move =>
              cases same
              obtain ⟨rfl, rfl⟩ := Job.does_pure.mp later
              exact ⟨_, .found node address, closing, by simp, .ended present answer swept (by simp), .ok move, handed, rfl⟩

/-- The failure that a failed assignment ends a move in, once the former assignment is gone. -/
def incomplete (reservation : Reservation) (device : String) : Failure → Failure
  | .problem problem =>
    .problem (if problem.family.isMetal then .moveIncomplete reservation.address device problem else problem)
  | .crash crash => .crash crash

abbrev unassigned (assignment : Assignment) (reply : Except Failure Unit) : Act := .metal (.unassign assignment.id) reply

abbrev assigned (reservation : Reservation) (device : String) (reply : Except Failure Assignment) : Act :=
  .metal (.assign device reservation.address) reply

private theorem does_reassign {device : String} {acts : List Act} {result : Except Failure Unit} :
    Job.Does (reassign reservation device) acts result ↔
      ∃ reply, acts = [assigned reservation device reply] ∧
        result = (reply.map fun _ => ()).mapError (incomplete reservation device) := by
  unfold reassign
  rw [Job.does_andThen]
  constructor
  · rintro ⟨_, reply, rest, rfl, called, later⟩
    obtain rfl := Job.does_metal.mp called
    refine ⟨reply, ?_⟩
    rcases reply with (problem | crash) | given
    · have failed : rest = [] ∧ result = .error (incomplete reservation device (.problem problem)) := by
        by_cases metal : problem.family.isMetal = true <;>
          simpa only [metal, Bool.false_eq_true, ↓reduceIte, Job.does_log_bind, Job.does_problem, incomplete] using later
      obtain ⟨rfl, rfl⟩ := failed
      exact ⟨rfl, rfl⟩
    · obtain ⟨rfl, rfl⟩ := Job.does_fail.mp later
      exact ⟨rfl, rfl⟩
    · obtain ⟨rfl, rfl⟩ := Job.does_pure.mp later
      exact ⟨rfl, rfl⟩
  · rintro ⟨reply, rfl, rfl⟩
    refine ⟨_, reply, [], rfl, Job.does_metal.mpr rfl, ?_⟩
    rcases reply with (problem | crash) | given
    · change Job.Does _ [] (.error (incomplete reservation device (.problem problem)))
      by_cases metal : problem.family.isMetal = true <;>
        simp only [metal, Bool.false_eq_true, ↓reduceIte, Job.does_log_bind, Job.does_problem, incomplete, and_self]
    · exact Job.does_fail.mpr ⟨rfl, rfl⟩
    · exact Job.does_pure.mpr ⟨rfl, rfl⟩

theorem does_move_free {device : String} {acts : List Act} {result : Except Failure (Option String)}
    (free : reservation.assignments = []) :
    Job.Does (move reservation device) acts result ↔
      ∃ reply, acts = [assigned reservation device reply] ∧ result = reply.map fun _ => none := by
  unfold move
  simp only [free]
  rw [Job.does_bind_pure]
  refine exists_congr fun reply => and_congr_left fun _ => Job.does_metal

/-- A reservation with an assignment is moved by removing that one first; only if this succeeds is it
assigned anew. -/
theorem does_move_bound {assignment : Assignment} {device : String} {acts : List Act}
    {result : Except Failure (Option String)} (bound : reservation.assignments = [assignment]) :
    Job.Does (move reservation device) acts result ↔
      (∃ failure, acts = [unassigned assignment (.error failure)] ∧ result = .error failure) ∨
        ∃ reply, acts = [unassigned assignment (.ok ()), assigned reservation device reply] ∧
          result = (reply.map fun _ => some assignment.id).mapError (incomplete reservation device) := by
  unfold move unassign
  simp only [bound, bind_assoc, Job.does_log_bind]
  rw [Job.does_metal_bind]
  refine or_congr .rfl ?_
  simp only [Job.does_bind_pure, does_reassign]
  constructor
  · rintro ⟨⟨⟩, _, rfl, _, ⟨reply, rfl, rfl⟩, rfl⟩
    exact ⟨reply, rfl, by cases reply <;> rfl⟩
  · rintro ⟨reply, rfl, rfl⟩
    exact ⟨(), _, rfl, _, ⟨reply, rfl, rfl⟩, by cases reply <;> rfl⟩

/-- A hand-over looks up the device of the node, and moves the reservation there. -/
theorem does_handOver {node : Option String} {address : String} {acts : List Act} {result : Except Failure Move} :
    Job.Does (handOver limits reservation node address) acts result ↔
      ∃ reply rest, acts = look limits node reply :: rest ∧
        match Instance.deviceIn node reply with
        | .ok device => ∃ moved, Job.Does (move reservation device) rest moved ∧
          result = moved.map fun previous => ⟨node, address, device, previous⟩
        | .error failure => rest = [] ∧ result = .error failure := by
  unfold handOver
  rw [Job.does_single_bind Instance.does_instanceId]
  refine exists_congr fun reply => exists_congr fun rest => and_congr_right fun _ => ?_
  cases Instance.deviceIn node reply with
  | error failure => rfl
  | ok device =>
    exact (Job.does_bind_congr fun previous rest => Job.does_log_bind).trans Job.does_bind_pure

def Settles (limits : Limits) (reservation : Reservation) : Finding → List Act → Except Failure Move → Prop
  | .lost failure, acts, result => acts = [] ∧ result = .error failure
  | .nothing checked, acts, result => acts = [] ∧ result = .error (.problem (.noHealthyCandidate checked))
  | .found node address, acts, result => Job.Does (handOver limits reservation node address) acts result

/-- A failover under a known port, for a reservation with at most one assignment, is a search and what
follows its finding. -/
theorem does_run {nodes : List (Option Cluster.Node)} {acts : List Act} {result : Except Failure Move}
    (done : Job.Does (run limits nodes reservation eipUrl) acts result) :
    ∃ (ports : Ports) (rest : List Act), acts = ⟨.ports, ports⟩ :: rest ∧
      if ports.node.isUnknown then rest = [] ∧ result = .error (.problem .noNodePort)
      else if 1 < reservation.assignments.length then
        rest = [] ∧
          result = .error (.problem (.multipleAssignment reservation.id reservation.assignments.length))
      else
        ∃ sought finding closing, rest = sought ++ closing ∧ Search limits ports.node eipUrl nodes sought finding ∧
          Settles limits reservation finding closing result := by
  unfold run at done
  obtain ⟨ports, rest, rfl, later⟩ := Job.does_ports_bind.mp done
  refine ⟨ports, rest, rfl, ?_⟩
  by_cases unknown : ports.node.isUnknown = true
  · simp only [unknown, ↓reduceIte] at later ⊢
    exact Job.does_problem.mp later
  · simp only [unknown, Bool.false_eq_true, ↓reduceIte] at later ⊢
    by_cases several : 1 < reservation.assignments.length
    · simp only [several, ↓reduceIte] at later ⊢
      exact Job.does_problem.mp later
    · simp only [several, ↓reduceIte] at later ⊢
      rw [Job.does_bind] at later
      rcases later with ⟨failure, rfl, tried⟩ | ⟨trial, first, after, rfl, tried, later⟩
      · obtain ⟨sought, finding, closing, rfl, searched, concluded⟩ := does_tryNodes tried
        refine ⟨sought, finding, closing, rfl, searched, ?_⟩
        cases finding with
        | lost failure => exact concluded.imp_right fun same => by cases same; rfl
        | nothing checked => cases concluded.2
        | found node address =>
          obtain ⟨moved, handed, same⟩ := concluded
          cases moved with
          | error failure => cases same; exact handed
          | ok move => cases same
      · obtain ⟨sought, finding, closing, rfl, searched, concluded⟩ := does_tryNodes tried
        cases finding with
        | lost failure => cases concluded.2
        | nothing checked =>
          obtain ⟨rfl, same⟩ := concluded
          cases same
          simp only [Job.does_log_bind, Job.does_problem, Nat.zero_add] at later
          obtain ⟨rfl, rfl⟩ := later
          exact ⟨sought, .nothing checked, [], by simp, searched, rfl, rfl⟩
        | found node address =>
          obtain ⟨moved, handed, same⟩ := concluded
          cases moved with
          | error failure => cases same
          | ok move =>
            cases same
            obtain ⟨rfl, rfl⟩ := Job.does_pure.mp later
            exact ⟨sought, .found node address, closing, by simp, searched, handed⟩

/-! A search changes nothing, checks candidates only, and reads the nodes from the first on. -/

theorem Sweep.checks {node : Option String} {addresses : List NodeAddress} {finding : Finding} {acts : List Act}
    (swept : Sweep limits port eipUrl node addresses acts finding) :
    ∀ act ∈ acts, ∃ address ∈ addresses, ∃ outcome,
      isCandidate port eipUrl address = true ∧ act = check limits port address.address outcome := by
  induction swept with
  | spent => simp
  | skipped _ _ ih =>
    intro act member
    obtain ⟨address, among, checked⟩ := ih act member
    exact ⟨address, List.mem_cons_of_mem _ among, checked⟩
  | @unhealthy address _ outcome _ _ _ candidate _ _ _ ih =>
    intro act member
    rcases List.mem_cons.mp member with rfl | member
    · exact ⟨address, List.mem_cons_self, outcome, candidate, rfl⟩
    · obtain ⟨address, among, checked⟩ := ih act member
      exact ⟨address, List.mem_cons_of_mem _ among, checked⟩
  | @healthy address _ outcome _ candidate _ _ =>
    intro act member
    exact ⟨address, List.mem_cons_self, outcome, candidate, List.mem_singleton.mp member⟩
  | @broken address _ outcome _ candidate _ =>
    intro act member
    exact ⟨address, List.mem_cons_self, outcome, candidate, List.mem_singleton.mp member⟩

private theorem Sweep.found_node {node other : Option String} {addresses : List NodeAddress} {finding : Finding}
    {acts : List Act} {address : String} (swept : Sweep limits port eipUrl node addresses acts finding)
    (found : finding = .found other address) : other = node := by
  induction swept with
  | spent => cases found
  | skipped _ _ ih => exact ih found
  | @unhealthy _ _ _ _ _ finding _ _ _ _ ih =>
    cases finding with
    | found _ _ => exact ih found
    | _ => cases found
  | healthy => cases found; rfl
  | broken => cases found

theorem Search.lookups {nodes : List (Option Cluster.Node)} {finding : Finding} {acts : List Act}
    (searched : Search limits port eipUrl nodes acts finding) :
    ∀ act ∈ acts, (∃ name reply, act = look limits name reply) ∨ ∃ address outcome,
      isCandidate port eipUrl address = true ∧ act = check limits port address.address outcome := by
  induction searched with
  | spent | blank => simp
  | unread =>
    intro act member
    rw [List.mem_singleton] at member
    exact .inl ⟨_, _, member⟩
  | ended _ _ swept _ =>
    intro act member
    rcases List.mem_cons.mp member with rfl | member
    · exact .inl ⟨_, _, rfl⟩
    · obtain ⟨address, -, checked⟩ := swept.checks act member
      exact .inr ⟨address, checked⟩
  | passed _ _ swept _ ih =>
    intro act member
    rcases List.mem_cons.mp member with rfl | member
    · exact .inl ⟨_, _, rfl⟩
    · rcases List.mem_append.mp member with member | member
      · obtain ⟨address, -, checked⟩ := swept.checks act member
        exact .inr ⟨address, checked⟩
      · exact ih act member

theorem Search.changes {nodes : List (Option Cluster.Node)} {finding : Finding} {acts : List Act}
    (searched : Search limits port eipUrl nodes acts finding) : Act.changes acts = [] := by
  rw [Act.changes, List.filterMap_eq_nil_iff]
  intro act member
  rcases searched.lookups act member with ⟨_, _, rfl⟩ | ⟨_, _, _, rfl⟩ <;> rfl

theorem Sweep.reads {node : Option String} {addresses : List NodeAddress} {finding : Finding} {acts : List Act}
    (swept : Sweep limits port eipUrl node addresses acts finding) : Act.reads acts = [] := by
  rw [Act.reads, List.filterMap_eq_nil_iff]
  intro act member
  obtain ⟨_, -, _, -, rfl⟩ := swept.checks act member
  rfl

/-- The nodes are read in order, and a healthy address belongs to the one read last. -/
theorem Search.reads {nodes : List (Option Cluster.Node)} {finding : Finding} {acts : List Act}
    (searched : Search limits port eipUrl nodes acts finding) :
    ∃ count, Act.reads acts = (nodes.take count).map (fun node => Cluster.nameOf (node.bind (·.metadata))) ∧
      ∀ node address, finding = .found node address → (Act.reads acts).getLast? = some node := by
  induction searched with
  | spent => exact ⟨0, rfl, by simp⟩
  | blank => exact ⟨0, rfl, by simp⟩
  | unread present _ => exact ⟨1, by simp [Act.reads, Request.nodeRead?, present, Cluster.nameOf], by simp⟩
  | @ended node _ metadata reply _ acts _ present _ swept _ =>
    have read : Act.reads (look limits metadata.name reply :: acts) = [metadata.name] := by
      rw [Act.reads_readNode, swept.reads]
    refine ⟨1, by simp [read, present, Cluster.nameOf], ?_⟩
    intro other address found
    rw [read, swept.found_node found]
    rfl
  | @passed node _ metadata reply _ acts count more finding present _ swept _ ih =>
    obtain ⟨others, names, last⟩ := ih
    have read : Act.reads (look limits metadata.name reply :: (acts ++ more)) = metadata.name :: Act.reads more := by
      rw [Act.reads_readNode, Act.reads_append, swept.reads, List.nil_append]
    refine ⟨others + 1, by simp [read, names, present, Cluster.nameOf], ?_⟩
    intro other address found
    cases finding with
    | found _ _ => rw [read, List.getLast?_cons, last other address found, Option.getD_some]
    | _ => cases found

/-- No search checks the elastic address. -/
theorem Search.urls {nodes : List (Option Cluster.Node)} {finding : Finding} {acts : List Act}
    (searched : Search limits port eipUrl nodes acts finding) : eipUrl ∉ Act.urls acts := by
  intro checked
  obtain ⟨act, member, asked⟩ := List.mem_filterMap.mp checked
  rcases searched.lookups act member with ⟨name, reply, rfl⟩ | ⟨address, outcome, candidate, rfl⟩
  · cases asked
  · have same : Net.healthUrl address.address port = eipUrl := by simpa [Request.url?, Health.request] using asked
    simp [isCandidate, same] at candidate

/-- The changes that moving a reservation can ask for. -/
inductive Moves (reservation : Reservation) : List Metal.Call → Prop where
  | none : Moves reservation []
  | given (free : reservation.assignments = []) (device) : Moves reservation [.assign device reservation.address]
  | removed {assignment} (bound : reservation.assignments = [assignment]) :
      Moves reservation [.unassign assignment.id]
  | moved {assignment} (bound : reservation.assignments = [assignment]) (device) :
      Moves reservation [.unassign assignment.id, .assign device reservation.address]

/-- What a failover does after its search: at most one more look at the node found, and the changes of a
move to the device that this look gave. -/
theorem Settles.acts {finding : Finding} {acts : List Act} {result : Except Failure Move}
    (settled : Settles limits reservation finding acts result) (single : reservation.assignments.length ≤ 1) :
    Act.urls acts = [] ∧ Moves reservation (Act.changes acts) ∧
      (Act.reads acts = [] ∨ ∃ node address, finding = .found node address ∧ Act.reads acts = [node]) ∧
      ∀ device address, .assign device address ∈ Act.changes acts →
        ∃ node reply, look limits node reply ∈ acts ∧ Instance.deviceIn node reply = .ok device := by
  cases finding with
  | lost failure =>
    obtain ⟨rfl, -⟩ := settled
    exact ⟨rfl, .none, .inl rfl, by simp [Act.changes]⟩
  | nothing checked =>
    obtain ⟨rfl, -⟩ := settled
    exact ⟨rfl, .none, .inl rfl, by simp [Act.changes]⟩
  | found node address =>
    obtain ⟨reply, rest, rfl, later⟩ := does_handOver.mp settled
    cases answer : Instance.deviceIn node reply with
    | error failure =>
      simp only [answer] at later
      obtain ⟨rfl, -⟩ := later
      exact ⟨rfl, .none, .inr ⟨node, address, rfl, rfl⟩, by simp [Act.changes, Request.change?]⟩
    | ok device =>
      simp only [answer] at later
      obtain ⟨moved, move, -⟩ := later
      have seen : ∃ other given, look limits other given ∈ look limits node reply :: rest ∧
          Instance.deviceIn other given = .ok device := ⟨node, reply, List.mem_cons_self, answer⟩
      match bound : reservation.assignments with
      | [] =>
        obtain ⟨reply, rfl, -⟩ := (does_move_free bound).mp move
        refine ⟨rfl, .given bound device, .inr ⟨node, address, rfl, rfl⟩, ?_⟩
        intro other target asked
        obtain ⟨rfl, -⟩ : other = device ∧ target = reservation.address := by simpa using asked
        exact seen
      | [assignment] =>
        rcases (does_move_bound bound).mp move with ⟨failure, rfl, -⟩ | ⟨reply, rfl, -⟩
        · exact ⟨rfl, .removed bound, .inr ⟨node, address, rfl, rfl⟩, by simp⟩
        · refine ⟨rfl, .moved bound device, .inr ⟨node, address, rfl, rfl⟩, ?_⟩
          intro other target asked
          obtain ⟨rfl, -⟩ : other = device ∧ target = reservation.address := by simpa using asked
          exact seen
      | first :: second :: others => simp [bound] at single

/-- All that a failover touches, for a reservation with at most one assignment: it reads nodes in order and
then perhaps the last of them again, leaves the elastic address unchecked, and asks for the changes of one
move to a device that a node read stands on. -/
theorem touches_of_run {nodes : List (Option Cluster.Node)} {acts : List Act} {result : Except Failure Move}
    (done : Job.Does (run limits nodes reservation eipUrl) acts result)
    (single : reservation.assignments.length ≤ 1) :
    eipUrl ∉ Act.urls acts ∧ Moves reservation (Act.changes acts) ∧
      (∃ count again,
        Act.reads acts = (nodes.take count).map (fun node => Cluster.nameOf (node.bind (·.metadata))) ++ again ∧
          (again = [] ∨ ∃ name, again = [name] ∧
            ((nodes.take count).map fun node => Cluster.nameOf (node.bind (·.metadata))).getLast? = some name)) ∧
      ∀ device address, .assign device address ∈ Act.changes acts →
        ∃ node reply, look limits node reply ∈ acts ∧ Instance.deviceIn node reply = .ok device := by
  obtain ⟨ports, rest, rfl, later⟩ := does_run done
  have first : Act.reads (⟨.ports, ports⟩ :: rest) = Act.reads rest ∧
      Act.changes (⟨.ports, ports⟩ :: rest) = Act.changes rest ∧
      Act.urls (⟨.ports, ports⟩ :: rest) = Act.urls rest := ⟨rfl, rfl, rfl⟩
  rw [first.1, first.2.1, first.2.2]
  split at later
  · obtain ⟨rfl, -⟩ := later
    exact ⟨by simp, .none, ⟨0, [], by simp, .inl rfl⟩, by simp⟩
  rw [if_neg (by omega)] at later
  obtain ⟨sought, finding, closing, rfl, searched, settled⟩ := later
  obtain ⟨unchecked, moves, reads, seen⟩ := settled.acts single
  obtain ⟨count, names, last⟩ := searched.reads
  refine ⟨by simp [unchecked, searched.urls], by simpa [searched.changes] using moves, ?_, ?_⟩
  · rcases reads with none | ⟨node, address, found, again⟩
    · exact ⟨count, [], by simp [none, names], .inl rfl⟩
    · refine ⟨count, [node], by simp [again, names], .inr ⟨node, rfl, ?_⟩⟩
      rw [← names]
      exact last node address found
  · intro device address asked
    obtain ⟨node, reply, member, named⟩ := seen device address (by simpa [searched.changes] using asked)
    exact ⟨node, reply, by simp [member], named⟩

end ElasticEndpoint.Failover
