import Mathlib
import ElasticEndpoint.Proofs.NodePassGate
import ElasticEndpoint.Proofs.PassRequests

/-!
Health addresses name their servers. What stands behind the last colon of a health address is the port, and what stands
before it is the host, in brackets or without. So a failover passes over one address at one port, and over no other.
-/

namespace ElasticEndpoint

namespace Net

/-- An address that does not begin with a bracket. -/
def IsBare (address : String) : Prop := address.toList.head? ≠ some '['

instance : DecidablePred IsBare := fun _ => inferInstanceAs (Decidable (_ ≠ _))

private theorem bare_of_bracketed {inner address : String} (bare : IsBare address) : "[" ++ inner ++ "]" ≠ address := by
  intro same
  apply bare
  rw [← same]
  simp

theorem hostPart_injective {a b : String} (bareA : IsBare a) (bareB : IsBare b) (same : hostPart a = hostPart b) :
    a = b := by
  unfold hostPart at same
  by_cases bracketedA : isIPv6 a.toList = true <;> by_cases bracketedB : isIPv6 b.toList = true
  · simp only [bracketedA, bracketedB, ↓reduceIte] at same
    rwa [String.append_left_inj, String.append_right_inj] at same
  · simp only [bracketedA, bracketedB, ↓reduceIte, Bool.false_eq_true] at same
    exact absurd same (bare_of_bracketed bareB)
  · simp only [bracketedA, bracketedB, ↓reduceIte, Bool.false_eq_true] at same
    exact absurd same.symm (bare_of_bracketed bareA)
  · simpa only [bracketedA, bracketedB, ↓reduceIte, Bool.false_eq_true] using same

theorem shown_number_injective {p q : Int} (same : (Port.number p).shown = (Port.number q).shown) : p = q := by
  apply Int.repr_injective
  rw [← Int.toString_eq_repr, ← Int.toString_eq_repr]
  exact same

private theorem colon_notMem_repr (n : Nat) : ':' ∉ n.repr.toList := by
  intro member
  rw [Nat.toList_repr] at member
  exact absurd (Nat.isDigit_of_mem_toDigits (by omega) (by omega) member) (by decide)

private theorem colon_notMem_shown (p : Int) : ':' ∉ (Port.number p).shown.toList := by
  change ':' ∉ (toString p).toList
  rw [Int.toString_eq_repr, Int.repr_eq_if]
  split
  · exact colon_notMem_repr _
  · rw [String.toList_append, List.mem_append, not_or]
    exact ⟨by decide, colon_notMem_repr _⟩

private theorem last_colon {front rest front' rest' : List Char} (clear : ':' ∉ rest) (clear' : ':' ∉ rest')
    (same : front ++ ':' :: rest = front' ++ ':' :: rest') : front = front' ∧ rest = rest' := by
  have behind (text : List Char) {tail : List Char} (free : ':' ∉ tail) :
      (text ++ ':' :: tail).reverse.takeWhile (· != ':') = tail.reverse := by
    rw [List.reverse_append, List.reverse_cons, List.append_assoc, List.takeWhile_append_of_pos]
    · simp
    · intro c member
      simpa using fun colon : c = ':' => free (colon ▸ List.mem_reverse.mp member)
  have tails : rest.reverse = rest'.reverse := by rw [← behind front clear, same, behind front' clear']
  obtain rfl := List.reverse_injective tails
  exact ⟨List.append_cancel_right same, rfl⟩

/-- A health address tells apart all servers whose addresses are bare. -/
theorem healthUrl_inj {a b : String} {p q : Int} (bareA : IsBare a) (bareB : IsBare b) :
    healthUrl a (.number p) = healthUrl b (.number q) ↔ a = b ∧ p = q := by
  refine ⟨fun same => ?_, fun ⟨host, port⟩ => by rw [host, port]⟩
  unfold healthUrl at same
  rw [String.append_left_inj] at same
  have texts := congrArg String.toList same
  simp only [String.toList_append, List.append_assoc, List.append_cancel_left_eq] at texts
  obtain ⟨hosts, ports⟩ := last_colon (colon_notMem_shown p) (colon_notMem_shown q) texts
  exact ⟨hostPart_injective bareA bareB (String.toList_injective hosts),
    shown_number_injective (String.toList_injective ports)⟩

private theorem healthUrl_ne_empty (address : String) (port : Port) : healthUrl address port ≠ "" := by
  intro empty
  have texts := congrArg String.toList empty
  simp [healthUrl] at texts

end Net

/-- A node that does not report some of its addresses. -/
def Cluster.Node.without (hidden : String → Bool) (node : Node) : Node :=
  { node with addresses := node.addresses.filter (·.all fun reported => !hidden reported.address) }

namespace Act

/-- An act in which nodes do not report some of their addresses. -/
def without (hidden : String → Bool) : Act → Act
  | ⟨.cluster (.readNode name) timeout, reply⟩ =>
    .cluster (.readNode name) timeout (reply.map (Cluster.Node.without hidden))
  | act => act

private theorem without_of_unread {hidden : String → Bool} {act : Act} (unread : act.request.nodeRead? = none) :
    act.without hidden = act := by
  obtain ⟨request, reply⟩ := act
  cases request with
  | cluster call timeout =>
    cases call with
    | readNode name => cases unread
    | _ => rfl
  | _ => rfl

/-- The addresses that an act tells of. -/
def reported : Act → List String
  | ⟨.cluster (.readNode _) _, .ok node⟩ => node.addresses.filterMap (·.map (·.address))
  | _ => []

private theorem without_congr {hidden other : String → Bool} {act : Act}
    (same : ∀ address ∈ act.reported, hidden address = other address) : act.without hidden = act.without other := by
  obtain ⟨request, reply⟩ := act
  cases request with
  | cluster call timeout =>
    cases call with
    | readNode name =>
      rcases reply with fault | node
      · rfl
      · have kept : node.without hidden = node.without other := by
          unfold Cluster.Node.without
          congr 1
          apply List.filter_congr
          intro one member
          cases one with
          | none => rfl
          | some one =>
            have told := same one.address (List.mem_filterMap.mpr ⟨some one, member, rfl⟩)
            simp only [Option.all_some, told]
        simp only [without, Except.map, kept]
    | _ => rfl
  | _ => rfl

private theorem map_without_of_unread {hidden : String → Bool} {acts : List Act}
    (unread : ∀ act ∈ acts, act.request.nodeRead? = none) : acts.map (without hidden) = acts := by
  conv_rhs => rw [← List.map_id acts]
  exact List.map_congr_left fun act member => without_of_unread (unread act member)

end Act

namespace Instance

variable (hidden : String → Bool)

private theorem mapM_without (reported : List (Option Cluster.ReportedAddress)) :
    (reported.filter (·.all fun one => !hidden one.address)).mapM id =
      (reported.mapM id).map (List.filter fun one => !hidden one.address) := by
  induction reported with
  | nil => rfl
  | cons one others ih =>
    cases one with
    | none =>
      rw [List.filter_cons_of_pos rfl, List.mapM_cons, List.mapM_cons]
      rfl
    | some one =>
      rw [List.filter_cons, List.mapM_cons]
      cases listed : others.mapM id <;> by_cases gone : hidden one.address = true <;> simp [gone, ih, listed]

private theorem addressesIn_without (name : Option String) (reply : Except Cluster.CallFailure Cluster.Node) :
    addressesIn name (reply.map (Cluster.Node.without hidden)) =
      (addressesIn name reply).map (List.filter fun one => !hidden one.address) := by
  rcases reply with (fault | crash) | node
  · rfl
  · rfl
  · change addressesOf (node.without hidden) = (addressesOf node).map _
    unfold addressesOf
    rw [Cluster.Node.without, mapM_without]
    cases node.addresses.mapM id with
    | none => rfl
    | some reported =>
      simp only [Option.map_some, Except.map, List.filterMap_filter, List.filter_filterMap]
      congr 2
      funext one
      unfold nodeAddress?
      by_cases blank : one.address.isEmpty = true <;> simp [blank, Option.filter]

private theorem deviceIn_without (name : Option String) (reply : Except Cluster.CallFailure Cluster.Node) :
    deviceIn name (reply.map (Cluster.Node.without hidden)) = deviceIn name reply := by
  rcases reply with (fault | crash) | node <;> rfl

end Instance

namespace Failover

variable {limits : Limits} {reservation : Reservation} {port : Net.Port} {eipUrl : String} {acts : List Act}

/-- A hand-over does not ask for the addresses of the node. -/
theorem does_handOver_without (hidden : String → Bool) {node : Option String} {address : String}
    {result : Except Failure Move} (done : Job.Does (handOver limits reservation node address) acts result) :
    Job.Does (handOver limits reservation node address) (acts.map (Act.without hidden)) result := by
  obtain ⟨reply, rest, rfl, later⟩ := does_handOver.mp done
  apply does_handOver.mpr
  refine ⟨reply.map (Cluster.Node.without hidden), rest.map (Act.without hidden), rfl, ?_⟩
  rw [Instance.deviceIn_without]
  cases named : Instance.deviceIn node reply with
  | error failure =>
    simp only [named] at later
    obtain ⟨rfl, rfl⟩ := later
    exact ⟨rfl, rfl⟩
  | ok device =>
    simp only [named] at later
    obtain ⟨moved, moves, rfl⟩ := later
    have asks : (move reservation device).Uses (·.nodeRead? = none) := uses_move (fun _ => rfl) rfl fun _ => rfl
    have unread : ∀ act ∈ rest, act.request.nodeRead? = none := Job.uses_acts asks moves
    refine ⟨moved, ?_, rfl⟩
    rwa [Act.map_without_of_unread unread]

abbrev hides (port : Net.Port) (eipUrl address : String) : Bool := Net.healthUrl address port == eipUrl

private theorem does_tryAddresses_without {node : Option String} {count : Nat} {addresses : List NodeAddress}
    {result : Except Failure Trial}
    (done : Job.Does (tryAddresses limits port reservation eipUrl node count addresses) acts result) :
    Job.Does (tryAddresses limits port reservation "" node count
      (addresses.filter fun one => !hides port eipUrl one.address)) (acts.map (Act.without (hides port eipUrl))) result := by
  induction addresses generalizing count acts with
  | nil =>
    obtain ⟨rfl, rfl⟩ := Job.does_pure.mp done
    exact Job.does_pure.mpr ⟨rfl, rfl⟩
  | cons address addresses ih =>
    unfold tryAddresses at done
    by_cases target : address.isProbeTarget = true
    · simp only [target, Bool.not_true, Bool.false_eq_true, ↓reduceIte] at done
      by_cases elastic : (Net.healthUrl address.address port == eipUrl) = true
      · simp only [elastic, ↓reduceIte, Job.does_log_bind] at done
        rw [List.filter_cons_of_neg (by simp [elastic])]
        exact ih done
      · rw [List.filter_cons_of_pos (by simpa using elastic)]
        unfold tryAddresses
        have other : (Net.healthUrl address.address port == "") = false := by
          simpa using Net.healthUrl_ne_empty address.address port
        simp only [elastic, Bool.false_eq_true, ↓reduceIte, Job.does_log_bind] at done
        simp only [target, other, Bool.not_true, Bool.false_eq_true, ↓reduceIte, Job.does_log_bind]
        obtain ⟨outcome, rest, rfl, later⟩ := (Job.does_single_bind Health.does_probe).mp done
        apply (Job.does_single_bind Health.does_probe).mpr
        refine ⟨outcome, rest.map (Act.without (hides port eipUrl)), rfl, ?_⟩
        cases answer : Health.ofOutcome outcome with
        | error failure =>
          simp only [answer] at later
          obtain ⟨rfl, rfl⟩ := later
          exact ⟨rfl, rfl⟩
        | ok health =>
          simp only [answer] at later
          by_cases well : health.isHealthy = true
          · simp only [well, ↓reduceIte] at later ⊢
            obtain ⟨moved, handed, rfl⟩ := Job.does_bind_pure.mp later
            exact Job.does_bind_pure.mpr ⟨moved, does_handOver_without _ handed, rfl⟩
          · simp only [well, Bool.false_eq_true, ↓reduceIte] at later ⊢
            cases health with
            | answered =>
              simp only [Job.does_log_bind] at later ⊢
              exact ih later
            | unreachable => exact ih later
    · simp only [target, Bool.not_false, ↓reduceIte, Job.does_log_bind] at done
      rw [List.filter_cons]
      split
      · unfold tryAddresses
        simp only [target, Bool.not_false, ↓reduceIte, Job.does_log_bind]
        exact ih done
      · exact ih done

private theorem does_tryNodes_without {count : Nat} {nodes : List (Option Cluster.Node)} {result : Except Failure Trial}
    (done : Job.Does (tryNodes limits port reservation eipUrl count nodes) acts result) :
    Job.Does (tryNodes limits port reservation "" count nodes) (acts.map (Act.without (hides port eipUrl))) result := by
  induction nodes generalizing count acts with
  | nil =>
    obtain ⟨rfl, rfl⟩ := Job.does_pure.mp done
    exact Job.does_pure.mpr ⟨rfl, rfl⟩
  | cons node nodes ih =>
    unfold tryNodes at done ⊢
    cases present : node.bind (·.metadata) with
    | none =>
      simp only [present] at done
      obtain ⟨rfl, rfl⟩ := Job.does_crash.mp done
      exact Job.does_crash.mpr ⟨rfl, rfl⟩
    | some metadata =>
      simp only [present] at done
      obtain ⟨reply, rest, rfl, later⟩ := (Job.does_single_bind Instance.does_nodeAddresses).mp done
      apply (Job.does_single_bind Instance.does_nodeAddresses).mpr
      refine ⟨reply.map (Cluster.Node.without (hides port eipUrl)), rest.map (Act.without (hides port eipUrl)), rfl, ?_⟩
      rw [Instance.addressesIn_without]
      cases answer : Instance.addressesIn metadata.name reply with
      | error failure =>
        simp only [answer] at later
        obtain ⟨rfl, rfl⟩ := later
        exact ⟨rfl, rfl⟩
      | ok addresses =>
        simp only [answer] at later
        simp only [Except.map]
        rw [Job.does_bind] at later ⊢
        rcases later with ⟨failure, rfl, tried⟩ | ⟨trial, first, after, rfl, tried, later⟩
        · exact .inl ⟨failure, rfl, does_tryAddresses_without tried⟩
        · refine .inr ⟨trial, _, _, List.map_append, does_tryAddresses_without tried, ?_⟩
          cases trial with
          | moved move =>
            obtain ⟨rfl, rfl⟩ := Job.does_pure.mp later
            exact Job.does_pure.mpr ⟨rfl, rfl⟩
          | checked checked => exact ih later

/-- Sparing an address comes to the same as nodes that do not report it. -/
theorem does_run_without {nodes : List (Option Cluster.Node)} {result : Except Failure Move}
    (done : Job.Does (run limits nodes reservation eipUrl) acts result) :
    ∃ (ports : Ports) (rest : List Act), acts = ⟨.ports, ports⟩ :: rest ∧
      Job.Does (run limits nodes reservation "") (acts.map (Act.without (hides ports.node eipUrl))) result := by
  unfold run at done
  obtain ⟨ports, rest, rfl, later⟩ := Job.does_ports_bind.mp done
  refine ⟨ports, rest, rfl, ?_⟩
  unfold run
  apply Job.does_ports_bind.mpr
  refine ⟨ports, rest.map (Act.without (hides ports.node eipUrl)), rfl, ?_⟩
  by_cases unknown : ports.node.isUnknown = true
  · simp only [unknown, ↓reduceIte, Job.does_problem] at later ⊢
    obtain ⟨rfl, rfl⟩ := later
    exact ⟨rfl, rfl⟩
  simp only [unknown, Bool.false_eq_true, ↓reduceIte] at later ⊢
  by_cases several : 1 < reservation.assignments.length
  · simp only [several, ↓reduceIte, Job.does_problem] at later ⊢
    obtain ⟨rfl, rfl⟩ := later
    exact ⟨rfl, rfl⟩
  simp only [several, ↓reduceIte] at later ⊢
  rw [Job.does_bind] at later ⊢
  rcases later with ⟨failure, rfl, tried⟩ | ⟨trial, first, after, rfl, tried, later⟩
  · exact .inl ⟨failure, rfl, does_tryNodes_without tried⟩
  · refine .inr ⟨trial, _, _, List.map_append, does_tryNodes_without tried, ?_⟩
    cases trial with
    | moved move =>
      obtain ⟨rfl, rfl⟩ := Job.does_pure.mp later
      exact Job.does_pure.mpr ⟨rfl, rfl⟩
    | checked count =>
      simp only [Job.does_log_bind, Job.does_problem] at later ⊢
      obtain ⟨rfl, rfl⟩ := later
      exact ⟨rfl, rfl⟩

/-- Under its health address, a bare address is spared at its port and no other address is. -/
theorem spares_only {nodes : List (Option Cluster.Node)} {elastic : String} {wanted port : Int} {ports : Ports}
    {result : Except Failure Move} (bare : Net.IsBare elastic)
    (reported : ∀ act ∈ acts, ∀ address ∈ act.reported, Net.IsBare address) (served : ports.node = .number port)
    (done : Job.Does (run limits nodes reservation (Net.healthUrl elastic (.number wanted))) (⟨.ports, ports⟩ :: acts)
      result) :
    Job.Does (run limits nodes reservation "")
      (⟨.ports, ports⟩ :: acts.map (Act.without fun address => address == elastic && port == wanted)) result := by
  obtain ⟨_, _, same, spared⟩ := does_run_without done
  cases same
  rw [served] at spared
  have exact : acts.map (Act.without fun address => address == elastic && port == wanted) =
      acts.map (Act.without (hides (.number port) (Net.healthUrl elastic (.number wanted)))) := by
    apply List.map_congr_left
    intro act member
    apply Act.without_congr
    intro address told
    rw [Bool.eq_iff_iff]
    simp only [Bool.and_eq_true, beq_iff_eq]
    exact (Net.healthUrl_inj (reported act member address told) bare).symm
  rw [exact]
  exact spared

end Failover

namespace NodePass

/-- A pass that reads nodes has gone into a failover, which it tells the health address that it checked. -/
theorem starts_failover {setup : Setup} {nodes : List (Option Cluster.Node)} {acts : List Act}
    {result : Except Failure Outcome} (done : Job.Does (run setup nodes) acts result) :
    Act.reads acts = [] ∨ ∃ before tried after reservation desired candidates moved,
      acts = before ++ tried ++ after ∧ Act.reads before = [] ∧ Act.reads after = [] ∧ Act.urls after = [] ∧
        Act.urls before =
          (if reservation.assignments = [] then [] else [Net.healthUrl reservation.address desired]) ∧
        Job.Does (Failover.run setup.limits candidates reservation (Net.healthUrl reservation.address desired))
          tried moved := by
  rcases does_run_cases done with ⟨state, rfl, rfl⟩ | ⟨within, middle, left, rfl, rfl, stopped |
    ⟨ports, reservations, reservation, checks, candidates, tried, moved, gate, members, failover, rfl, rfl⟩⟩
  · exact .inl rfl
  · left
    change Act.reads (within ++ _) = []
    rw [Act.reads_append, stopped.untouched.1]
    rfl
  · obtain ⟨unread, -, unasked⟩ := closing_untouched moved left
    refine .inr ⟨⟨.enterGuard, true⟩ :: lead setup ports reservations checks, tried,
      remembered moved ++ [⟨.leaveGuard, left⟩], reservation, ports.desired, _, moved, by simp,
      gate.untouched.1, unread, unasked, ?_, failover⟩
    have checked := gate.checked
    split at checked
    next free =>
      subst checked
      rw [if_pos free]
      rfl
    next bound =>
      obtain ⟨outcome, rfl, -⟩ := checked
      rw [if_neg bound]
      rfl

end NodePass

/-- A health address names a bare address and a port. A failover spares exactly the address that its health address
names, and only at the port named: it goes as where that one is not reported and nothing is spared. A pass hands on
to its failover the health address that it has checked. -/
theorem healthUrl_identifies :
    (∀ a b p q, Net.IsBare a → Net.IsBare b →
      (Net.healthUrl a (.number p) = Net.healthUrl b (.number q) ↔ a = b ∧ p = q)) ∧
    (∀ address port, Net.healthUrl address port ≠ "") ∧
    (∀ limits nodes reservation elastic wanted port ports acts result, Net.IsBare elastic →
      (∀ act ∈ acts, ∀ address ∈ act.reported, Net.IsBare address) → ports.node = .number port →
        Job.Does (Failover.run limits nodes reservation (Net.healthUrl elastic (.number wanted)))
          (⟨.ports, ports⟩ :: acts) result →
        Job.Does (Failover.run limits nodes reservation "")
          (⟨.ports, ports⟩ :: acts.map (Act.without fun address => address == elastic && port == wanted)) result) ∧
    ∀ setup nodes acts result, Job.Does (NodePass.run setup nodes) acts result →
      Act.reads acts = [] ∨ ∃ before tried after reservation desired candidates moved,
        acts = before ++ tried ++ after ∧ Act.reads before = [] ∧ Act.reads after = [] ∧ Act.urls after = [] ∧
          Act.urls before =
            (if reservation.assignments = [] then [] else [Net.healthUrl reservation.address desired]) ∧
          Job.Does (Failover.run setup.limits candidates reservation (Net.healthUrl reservation.address desired))
            tried moved := by
  refine ⟨fun a b p q bareA bareB => Net.healthUrl_inj bareA bareB, Net.healthUrl_ne_empty, ?_, ?_⟩
  · intro limits nodes reservation elastic wanted port ports acts result bare reported served done
    exact Failover.spares_only bare reported served done
  · intro setup nodes acts result done
    exact NodePass.starts_failover done

/-- A node reports the elastic address and one of the sixth version. -/
def World.twoFaced : World where
  cluster := {
    nodes := [some {
      metadata := some { name := some "first", labels := some (Cluster.controlPlaneLabels.map (·, .text "")) }
      provider := some "packet://device"
      addresses := [some ⟨"ExternalIP", "1.2.3.4"⟩, some ⟨"ExternalIP", "2001:db8::7"⟩] }] }
  ledger := [⟨"reservation", "1.2.3.4", ["eip"], [⟨"old", none, none⟩]⟩]
  script := .byTarget [("GET https://[2001:db8::7]:6443/healthz", [.answered 200 []])]
  ports := ⟨.number 6443, .number 6443, true⟩

namespace World.twoFaced

def failover (eipUrl : String) : Job Move :=
  Failover.run ⟨none, none⟩ twoFaced.cluster.nodes ⟨"reservation", "1.2.3.4", ["eip"], [⟨"old", none, none⟩]⟩ eipUrl

def pass : Job NodePass.Outcome := NodePass.run ⟨"project", "eip", .unhealthy, none, none⟩ twoFaced.cluster.nodes

/-- Only the other address is checked. -/
theorem healthUrl_identifies_twoFaced :
    (Net.healthUrl "2001:db8::7" (.number 6443) = Net.healthUrl "node" (.number 443) ↔
      "2001:db8::7" = "node" ∧ (6443 : Int) = 443) ∧
    (∃ acts, twoFaced.acts (failover "https://1.2.3.4:6443/healthz") = ⟨.ports, twoFaced.ports⟩ :: acts ∧
      Act.urls acts = ["https://[2001:db8::7]:6443/healthz"] ∧
      Job.Does (failover "")
        (⟨.ports, twoFaced.ports⟩ :: acts.map (Act.without fun address => address == "1.2.3.4" && (6443 : Int) == 6443))
        (twoFaced.run (failover "https://1.2.3.4:6443/healthz")).1) ∧
    ∃ tried reservation desired candidates moved, tried ⊆ twoFaced.acts pass ∧
      Job.Does (Failover.run ⟨none, none⟩ candidates reservation (Net.healthUrl reservation.address desired))
        tried moved := by
  obtain ⟨names, -, spares, hands⟩ := healthUrl_identifies
  refine ⟨names _ _ _ _ (by decide +kernel) (by decide +kernel), ?_, ?_⟩
  · refine ⟨_, rfl, by decide +kernel, ?_⟩
    apply spares _ _ _ _ 6443 6443 _ _ _ (by decide +kernel : Net.IsBare "1.2.3.4") (by decide +kernel) rfl
    exact twoFaced.does_acts (failover "https://1.2.3.4:6443/healthz")
  · rcases hands _ _ _ _ (twoFaced.does_acts pass) with
      unread | ⟨before, tried, after, reservation, desired, candidates, moved, shape, -, -, -, -, done⟩
    · exact absurd unread (by decide +kernel)
    · refine ⟨tried, reservation, desired, candidates, moved, ?_, done⟩
      rw [shape]
      simp

end World.twoFaced

end ElasticEndpoint
