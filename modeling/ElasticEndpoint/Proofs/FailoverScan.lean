import ElasticEndpoint.Proofs.FailoverSearch

/-!
A failover as a scan. Where every look-up, check and change has a fixed answer, a failover is a walk
along one route, the nodes in order with their candidates in order, as far as the first stop that ends it.
-/

namespace ElasticEndpoint

namespace Failover

/-- What a failover is told: the ports, what reading a node gives when its addresses and when its device
are looked up, the outcome of checking a health address, and what removing and assigning come to. -/
structure Survey where
  ports : Ports
  addresses : Option String → Except Cluster.CallFailure Cluster.Node
  device : Option String → Except Cluster.CallFailure Cluster.Node
  health : String → Http.Outcome
  unassign : String → Except Failure Unit
  assign : String → String → Except Failure Assignment

def isWell (outcome : Http.Outcome) : Bool :=
  match Health.ofOutcome outcome with
  | .ok health => health.isHealthy
  | .error _ => false

/-- Whether the last of some acts is a check that found a healthy address. -/
def won (acts : List Act) : Bool :=
  match acts.getLast? with
  | some ⟨.http _, outcome⟩ => isWell outcome
  | _ => false

@[simp]
theorem won_look (acts : List Act) (limits : Limits) (name : Option String)
    (reply : Except Cluster.CallFailure Cluster.Node) : won (acts ++ [look limits name reply]) = false := by
  simp [won]

@[simp]
theorem won_check (acts : List Act) (limits : Limits) (port : Net.Port) (address : String) (outcome : Http.Outcome) :
    won (acts ++ [check limits port address outcome]) = isWell outcome := by
  simp [won]

structure Target where
  node : Option String
  address : String

/-- A stop of a search: what is asked there, and what the search ends in if it ends there. -/
structure Stop where
  asked : List Act
  ending : Option (Except Failure Target)

/-- What is asked along a route, up to the first stop that ends it. -/
def askedAlong : List Stop → List Act
  | [] => []
  | stop :: route => stop.asked ++ if stop.ending.isSome then [] else askedAlong route

theorem askedAlong_append (first rest : List Stop) :
    askedAlong (first ++ rest) =
      askedAlong first ++ if (first.findSome? Stop.ending).isSome then [] else askedAlong rest := by
  induction first with
  | nil => rfl
  | cons stop first ih =>
    cases ended : stop.ending with
    | none => simp [askedAlong, ended, ih]
    | some ending => simp [askedAlong, ended]

/-- What a search comes to that has some number of candidates. -/
def conclude : Option (Except Failure Target) → Nat → Finding
  | some (.ok target), _ => .found target.node target.address
  | some (.error failure), _ => .lost failure
  | none, count => .nothing count

theorem conclude_after (ending : Option (Except Failure Target)) (first rest : Nat) :
    (conclude ending rest).after first = conclude ending (first + rest) := by
  rcases ending with _ | (failure | target) <;> rfl

namespace Survey

variable (survey : Survey) (limits : Limits) (eipUrl : String)

/-- The reply to a request. Nodes are read for their device only after a healthy address was found. What
no failover asks for gets any reply. -/
def reply (acts : List Act) : (request : Request) → request.Reply
  | .ports => survey.ports
  | .cluster (.readNode name) _ => if won acts then survey.device name else survey.addresses name
  | .http request => survey.health request.url
  | .metal (.unassign assignmentId) => survey.unassign assignmentId
  | .metal (.assign instanceId address) => survey.assign instanceId address
  | .metal (.list _ _) => .ok []
  | .cluster _ _ => .error (.crash .missingPart)
  | .observePort _ => survey.ports
  | .guardState => .idle
  | .enterGuard | .leaveGuard => true
  | .log _ | .remember _ => ()

/-- Answers a request, and keeps the acts so far. -/
def answer (request : Request) (acts : List Act) : request.Reply × List Act :=
  (survey.reply acts request, if request.isLog then acts else acts ++ [⟨request, survey.reply acts request⟩])

def targets (name : Option String) (addresses : List NodeAddress) : List Target :=
  (addresses.filter (isCandidate survey.ports.node eipUrl)).map fun address => ⟨name, address.address⟩

/-- The candidates of a node, or what its look-up fails with. -/
def lookup (node : Option Cluster.Node) : Except Failure (List Target) :=
  match node.bind (·.metadata) with
  | none => .error (.crash .missingPart)
  | some metadata =>
    (Instance.addressesIn metadata.name (survey.addresses metadata.name)).map (survey.targets eipUrl metadata.name)

def candidates (node : Option Cluster.Node) : List Target :=
  match survey.lookup eipUrl node with
  | .ok targets => targets
  | .error _ => []

/-- The look-up of a node ends a search if it fails. A blank place fails without being asked about. -/
def lookStop (node : Option Cluster.Node) : Stop where
  asked := ((node.bind (·.metadata)).map fun metadata =>
    look limits metadata.name (survey.addresses metadata.name)).toList
  ending :=
    match survey.lookup eipUrl node with
    | .ok _ => none
    | .error failure => some (.error failure)

/-- What the check of a candidate ends a search in: the candidate is the winner if it is healthy, a broken
check is a failure, and any other goes on. -/
def verdict (target : Target) : Option (Except Failure Target) :=
  match Health.ofOutcome (survey.health (Net.healthUrl target.address survey.ports.node)) with
  | .ok health => if health.isHealthy then some (.ok target) else none
  | .error failure => some (.error failure)

def checkStop (target : Target) : Stop where
  asked := [check limits survey.ports.node target.address
    (survey.health (Net.healthUrl target.address survey.ports.node))]
  ending := survey.verdict target

def stops (node : Option Cluster.Node) : List Stop :=
  survey.lookStop limits eipUrl node :: (survey.candidates eipUrl node).map (survey.checkStop limits)

def route (nodes : List (Option Cluster.Node)) : List Stop := nodes.flatMap (survey.stops limits eipUrl)

/-- What a search along a route comes to: the first ending on it, or the number of all candidates. -/
def finding (nodes : List (Option Cluster.Node)) : Finding :=
  conclude ((survey.route limits eipUrl nodes).findSome? Stop.ending)
    (nodes.flatMap (survey.candidates eipUrl)).length

/-- Giving a reservation to the node of a healthy address: its device is looked up, the former assignment
is removed if there is one, and the reservation is assigned to the device. -/
def give (reservation : Reservation) (node : Option String) (address : String) : Except Failure Move × List Act :=
  let looked := look limits node (survey.device node)
  match Instance.deviceIn node (survey.device node) with
  | .error failure => (.error failure, [looked])
  | .ok device =>
    let given := survey.assign device reservation.address
    match reservation.assignments with
    | [] => (given.map fun _ => ⟨node, address, device, none⟩, [looked, assigned reservation device given])
    | assignment :: _ =>
      match survey.unassign assignment.id with
      | .error failure => (.error failure, [looked, unassigned assignment (.error failure)])
      | .ok () =>
        ((given.map fun _ => ⟨node, address, device, some assignment.id⟩).mapError (incomplete reservation device),
          [looked, unassigned assignment (.ok ()), assigned reservation device given])

/-- What follows a search. Only a healthy address leads to any more acts. -/
def close (reservation : Reservation) : Finding → Except Failure Move × List Act
  | .lost failure => (.error failure, [])
  | .nothing checked => (.error (.problem (.noHealthyCandidate checked)), [])
  | .found node address => survey.give limits reservation node address

def scan (nodes : List (Option Cluster.Node)) (reservation : Reservation) : Except Failure Move × List Act :=
  let (result, closing) := survey.close limits reservation (survey.finding limits eipUrl nodes)
  (result, ⟨.ports, survey.ports⟩ :: (askedAlong (survey.route limits eipUrl nodes) ++ closing))

variable {survey limits eipUrl} {past last : List Act}

private theorem answers_keep {history : List Act} (answered : Program.Answers survey.answer past history last) :
    last = past ++ history.filter (!·.request.isLog) := by
  induction answered with
  | nil => simp
  | @cons request past _ _ _ ih =>
    rw [ih]
    cases silent : request.isLog <;> simp [answer, silent]

/-- The next act is answered by the survey, which keeps it. -/
private theorem answers_act {request : Request} (silent : request.isLog = false) {reply : request.Reply}
    {rest : List Act} :
    Program.Answers survey.answer past (⟨request, reply⟩ :: rest) last ↔
      reply = survey.reply past request ∧ Program.Answers survey.answer (past ++ [⟨request, reply⟩]) rest last := by
  rw [Program.answers_cons]
  refine and_congr_right ?_
  rintro rfl
  simp [answer, silent]

/-- Only a search that found a healthy address ends in its check. -/
def Ready (acts : List Act) : Finding → Prop
  | .lost _ => True
  | .nothing _ => won acts = false
  | .found _ _ => won acts = true

/-- A search that went along a route, with what the survey was asked by then. -/
structure Along (route : List Stop) (count : Nat) (acts : List Act) (finding : Finding) (last : List Act) : Prop where
  asked : acts = askedAlong route
  comes : finding = conclude (route.findSome? Stop.ending) count
  ready : Ready last finding

private theorem sweep_along {node : Option String} {addresses : List NodeAddress} {acts : List Act} {finding : Finding}
    (swept : Sweep limits survey.ports.node eipUrl node addresses acts finding)
    (answered : Program.Answers survey.answer past acts last) (before : won past = false) :
    Along ((survey.targets eipUrl node addresses).map (survey.checkStop limits))
      (survey.targets eipUrl node addresses).length acts finding last := by
  unfold targets
  induction swept generalizing past with
  | spent =>
    rw [Program.answers_nil] at answered
    exact ⟨rfl, rfl, by rw [answered]; exact before⟩
  | skipped passed _ ih =>
    rw [List.filter_cons_of_neg (by simp [passed])]
    exact ih answered before
  | @unhealthy address addresses outcome health acts finding candidate settled sick _ ih =>
    obtain ⟨same, answered⟩ := (answers_act rfl).mp answered
    obtain rfl : outcome = survey.health (Net.healthUrl address.address survey.ports.node) := same
    have goesOn : survey.verdict ⟨node, address.address⟩ = none := by
      simp [verdict, settled, sick]
    have later := ih answered (by simp [isWell, settled, sick])
    rw [List.filter_cons_of_pos candidate]
    refine ⟨?_, ?_, ?_⟩
    · simp [askedAlong, checkStop, goesOn, later.asked]
    · simp [checkStop, goesOn, later.comes, conclude_after, Nat.add_comm]
    · have ready := later.ready
      cases finding <;> exact ready
  | @healthy address addresses outcome health candidate settled well =>
    obtain ⟨same, answered⟩ := (answers_act rfl).mp answered
    obtain rfl : outcome = survey.health (Net.healthUrl address.address survey.ports.node) := same
    rw [Program.answers_nil] at answered
    have wins : survey.verdict ⟨node, address.address⟩ = some (.ok ⟨node, address.address⟩) := by
      simp [verdict, settled, well]
    rw [List.filter_cons_of_pos candidate]
    refine ⟨?_, ?_, ?_⟩
    · simp [askedAlong, checkStop, wins]
    · simp [checkStop, wins, conclude]
    · simp [Ready, answered, isWell, settled, well]
  | @broken address addresses outcome failure candidate settled =>
    obtain ⟨same, -⟩ := (answers_act rfl).mp answered
    obtain rfl : outcome = survey.health (Net.healthUrl address.address survey.ports.node) := same
    have breaks : survey.verdict ⟨node, address.address⟩ = some (.error failure) := by
      simp [verdict, settled]
    rw [List.filter_cons_of_pos candidate]
    refine ⟨?_, ?_, trivial⟩
    · simp [askedAlong, checkStop, breaks]
    · simp [checkStop, breaks, conclude]

private theorem route_of_looked {node : Option Cluster.Node} {nodes : List (Option Cluster.Node)}
    {metadata : Cluster.Meta} {targets : List Target} (present : node.bind (·.metadata) = some metadata)
    (looked : survey.lookup eipUrl node = .ok targets) :
    survey.route limits eipUrl (node :: nodes) =
      ⟨[look limits metadata.name (survey.addresses metadata.name)], none⟩ ::
        (targets.map (survey.checkStop limits) ++ survey.route limits eipUrl nodes) := by
  simp [route, stops, lookStop, candidates, present, looked]

private theorem search_along {nodes : List (Option Cluster.Node)} {acts : List Act} {finding : Finding}
    (searched : Search limits survey.ports.node eipUrl nodes acts finding)
    (answered : Program.Answers survey.answer past acts last) (before : won past = false) :
    Along (survey.route limits eipUrl nodes) (nodes.flatMap (survey.candidates eipUrl)).length acts finding last := by
  induction searched generalizing past with
  | spent =>
    rw [Program.answers_nil] at answered
    exact ⟨rfl, rfl, by rw [answered]; exact before⟩
  | @blank node nodes missing =>
    have lost : survey.lookup eipUrl node = .error (.crash .missingPart) := by simp [lookup, missing]
    refine ⟨?_, ?_, trivial⟩
    · simp [route, stops, askedAlong, lookStop, missing, lost]
    · simp [route, stops, lookStop, lost, conclude]
  | @unread node nodes metadata reply failure present settled =>
    obtain ⟨same, -⟩ := (answers_act rfl).mp answered
    obtain rfl : reply = survey.addresses metadata.name := by simpa [Survey.reply, before] using same
    have lost : survey.lookup eipUrl node = .error failure := by simp [lookup, present, settled, Except.map]
    refine ⟨?_, ?_, trivial⟩
    · simp [route, stops, askedAlong, lookStop, present, lost]
    · simp [route, stops, lookStop, lost, conclude]
  | @ended node nodes metadata reply addresses acts finding present settled swept decisive =>
    obtain ⟨same, answered⟩ := (answers_act rfl).mp answered
    obtain rfl : reply = survey.addresses metadata.name := by simpa [Survey.reply, before] using same
    have looked : survey.lookup eipUrl node = .ok (survey.targets eipUrl metadata.name addresses) := by
      simp [lookup, present, settled, Except.map]
    have along := sweep_along swept answered (by simp)
    obtain ⟨ending, ended⟩ : ∃ ending, ((survey.targets eipUrl metadata.name addresses).map
        (survey.checkStop limits)).findSome? Stop.ending = some ending := by
      rw [← Option.ne_none_iff_exists']
      intro none
      exact decisive _ (by rw [along.comes, none]; rfl)
    refine ⟨?_, ?_, along.ready⟩
    · rw [route_of_looked present looked]
      simp [askedAlong, askedAlong_append, ended, along.asked]
    · rw [route_of_looked present looked, along.comes]
      rcases ending with failure | target <;> simp [List.findSome?_append, ended, conclude]
  | @passed node nodes metadata reply addresses acts count more finding present settled swept _ ih =>
    obtain ⟨same, answered⟩ := (answers_act rfl).mp answered
    obtain rfl : reply = survey.addresses metadata.name := by simpa [Survey.reply, before] using same
    have looked : survey.lookup eipUrl node = .ok (survey.targets eipUrl metadata.name addresses) := by
      simp [lookup, present, settled, Except.map]
    obtain ⟨middle, answered, later⟩ := Program.answers_append.mp answered
    have along := sweep_along swept answered (by simp)
    have later := ih later along.ready
    have comes := along.comes
    cases ended : ((survey.targets eipUrl metadata.name addresses).map (survey.checkStop limits)).findSome?
        Stop.ending with
    | some ending =>
      rw [ended] at comes
      rcases ending with failure | target <;> cases comes
    | none =>
      rw [ended] at comes
      cases comes
      refine ⟨?_, ?_, ?_⟩
      · rw [route_of_looked present looked]
        simp [askedAlong, askedAlong_append, ended, along.asked, later.asked]
      · rw [route_of_looked present looked, later.comes, conclude_after]
        simp [List.findSome?_append, ended, candidates, looked]
      · have ready := later.ready
        cases finding <;> exact ready

/-- After a search, a failover closes as its finding asks for. -/
private theorem settles_close {reservation : Reservation} {finding : Finding} {acts : List Act}
    {result : Except Failure Move} (settled : Settles limits reservation finding acts result)
    (answered : Program.Answers survey.answer past acts last) (ready : Ready past finding)
    (single : reservation.assignments.length ≤ 1) : survey.close limits reservation finding = (result, acts) := by
  cases finding with
  | lost failure =>
    obtain ⟨rfl, rfl⟩ := settled
    rfl
  | nothing checked =>
    obtain ⟨rfl, rfl⟩ := settled
    rfl
  | found node address =>
    obtain ⟨reply, rest, rfl, later⟩ := does_handOver.mp settled
    obtain ⟨same, answered⟩ := (answers_act rfl).mp answered
    obtain rfl : reply = survey.device node := by simpa [Survey.reply, show won past = true from ready] using same
    change survey.give limits reservation node address = _
    unfold give
    cases named : Instance.deviceIn node (survey.device node) with
    | error failure =>
      simp only [named] at later
      obtain ⟨rfl, rfl⟩ := later
      rfl
    | ok device =>
      simp only [named] at later
      obtain ⟨moved, move, rfl⟩ := later
      match bound : reservation.assignments with
      | [] =>
        obtain ⟨given, rfl, rfl⟩ := (does_move_free bound).mp move
        obtain ⟨same, -⟩ := (answers_act rfl).mp answered
        obtain rfl : given = survey.assign device reservation.address := same
        cases given : survey.assign device reservation.address <;> simp only [given, Except.map]
      | [assignment] =>
        rcases (does_move_bound bound).mp move with ⟨failure, rfl, rfl⟩ | ⟨given, rfl, rfl⟩
        · obtain ⟨same, -⟩ := (answers_act rfl).mp answered
          have refused : survey.unassign assignment.id = .error failure := same.symm
          simp only [refused, Except.map]
        · obtain ⟨same, answered⟩ := (answers_act rfl).mp answered
          have removed : survey.unassign assignment.id = .ok () := same.symm
          obtain ⟨same, -⟩ := (answers_act rfl).mp answered
          obtain rfl : given = survey.assign device reservation.address := same
          simp only [removed]
          cases survey.assign device reservation.address <;> rfl
      | first :: second :: others => simp [bound] at single

/-- Under a known port, for a reservation with at most one assignment, a failover does and results in
exactly what the scan of its survey gives. -/
theorem run_eq_scan (survey : Survey) (limits : Limits) (nodes : List (Option Cluster.Node))
    (reservation : Reservation) (eipUrl : String) (known : survey.ports.node.isUnknown = false)
    (single : reservation.assignments.length ≤ 1) :
    Program.run survey.answer (run limits nodes reservation eipUrl) [] =
      survey.scan limits eipUrl nodes reservation := by
  have ran := Program.answers_history survey.answer (run limits nodes reservation eipUrl) []
  have done : Job.Does (run limits nodes reservation eipUrl) _ _ :=
    ⟨_, Program.ends_history survey.answer (run limits nodes reservation eipUrl) [], rfl⟩
  have kept := answers_keep ran
  obtain ⟨_, answered, -⟩ := Job.answers_acts Eq (fun _ _ _ same => by subst same; simp [answer, Request.isLog])
    (fun _ _ _ same => by subst same; exact ⟨rfl, rfl⟩) ran rfl
  generalize Program.run survey.answer (run limits nodes reservation eipUrl) [] = outcome at done kept ⊢
  obtain ⟨result, last⟩ := outcome
  obtain ⟨ports, rest, acts, later⟩ := does_run done
  simp only [acts, List.nil_append] at kept answered
  obtain ⟨same, answered⟩ := (answers_act rfl).mp answered
  obtain rfl : ports = survey.ports := same
  rw [known, if_neg (by simp), if_neg (by omega)] at later
  obtain ⟨sought, finding, closing, rfl, searched, settled⟩ := later
  obtain ⟨middle, before, after⟩ := Program.answers_append.mp answered
  have along := search_along searched before (by simp [won])
  have closed := settles_close settled after along.ready single
  have comes : finding = survey.finding limits eipUrl nodes := along.comes
  rw [kept, along.asked]
  simp only [scan, ← comes, closed]

def twoNodes : List (Option Cluster.Node) :=
  [some ⟨some { name := some "first" }, none, []⟩, some ⟨some { name := some "second" }, none, []⟩]

def heldOnce : Reservation := ⟨"reservation", "1.2.3.4", [], [⟨"old", none, none⟩]⟩

/-- Every node reports a host name and an address, and only the second node is healthy. -/
def secondHealthy : Survey where
  ports := ⟨.number 6443, .number 6443, true⟩
  addresses name := .ok ⟨some { name }, none,
    [some ⟨"Hostname", "node"⟩, some ⟨"InternalIP", if name = some "first" then "10.0.0.1" else "10.0.0.2"⟩]⟩
  device name := .ok ⟨some { name }, some "equinixmetal://device", []⟩
  health url := .answered (if url = "https://10.0.0.2:6443/healthz" then 200 else 503) []
  unassign _ := .ok ()
  assign device address := .ok ⟨"new", some address, some device⟩

theorem run_second_healthy :
    secondHealthy.ports.node.isUnknown = false ∧ heldOnce.assignments.length ≤ 1 ∧
      (Program.run secondHealthy.answer
        (run ⟨none, none⟩ twoNodes heldOnce "https://1.2.3.4:6443/healthz") []).1.toOption =
          some ⟨some "second", "10.0.0.2", "device", some "old"⟩ ∧
      Act.urls (Program.run secondHealthy.answer
        (run ⟨none, none⟩ twoNodes heldOnce "https://1.2.3.4:6443/healthz") []).2 =
          ["https://10.0.0.1:6443/healthz", "https://10.0.0.2:6443/healthz"] := by
  refine ⟨rfl, by decide, ?_⟩
  rw [run_eq_scan secondHealthy _ _ _ _ rfl (by decide)]
  decide +kernel

end Survey

end Failover

end ElasticEndpoint
