import Mathlib.Data.List.TakeWhile
import ElasticEndpoint.Proofs.NodePassGate
import ElasticEndpoint.Proofs.PassRequests

/-!
Provider identities. A provider identity is a scheme and a device between slashes, and it is read as exactly that. The
elastic address is assigned to the device that the provider identity of the node read last names.
-/

namespace ElasticEndpoint

namespace Instance

/-- A provider identity that consists of a scheme and a device, with any number of slashes before and behind the
device and none at its ends. -/
structure Names (provider device : String) : Prop where
  filled : device ≠ ""
  front : device.toList.head? ≠ some '/'
  back : device.toList.getLast? ≠ some '/'
  parts : ∃ scheme ∈ ["equinixmetal://", "packet://"], ∃ m n,
    provider.toList = scheme.toList ++ (List.replicate m '/' ++ (device.toList ++ List.replicate n '/'))

/-- A text without the slashes at its ends. -/
def shorn (text : List Char) : List Char := ((text.dropWhile (· == '/')).reverse.dropWhile (· == '/')).reverse

private theorem slashes_dropWhile (text : List Char) : ∃ m, text = List.replicate m '/' ++ text.dropWhile (· == '/') := by
  refine ⟨(text.takeWhile (· == '/')).length, ?_⟩
  have slashes : text.takeWhile (· == '/') = List.replicate (text.takeWhile (· == '/')).length '/' := by
    apply List.eq_replicate_of_mem
    intro c member
    simpa using List.mem_takeWhile_imp member
  rw [← slashes, List.takeWhile_append_dropWhile]

private theorem head?_dropWhile_slashes (text : List Char) : (text.dropWhile (· == '/')).head? ≠ some '/' := by
  intro slash
  have kept := List.head?_dropWhile_not (· == '/') text
  rw [slash] at kept
  cases kept

private theorem dropWhile_solid {text : List Char} (front : text.head? ≠ some '/') : text.dropWhile (· == '/') = text := by
  cases text with
  | nil => rfl
  | cons c rest => exact List.dropWhile_cons_of_neg (by simpa using front)

private theorem dropWhile_slashes (m : Nat) (text : List Char) :
    (List.replicate m '/' ++ text).dropWhile (· == '/') = text.dropWhile (· == '/') := by
  apply List.dropWhile_append_of_pos
  intro c member
  simpa using List.eq_of_mem_replicate member

private theorem shorn_parts (text : List Char) :
    ∃ m n, text = List.replicate m '/' ++ (shorn text ++ List.replicate n '/') := by
  obtain ⟨m, front⟩ := slashes_dropWhile text
  obtain ⟨n, back⟩ := slashes_dropWhile (text.dropWhile (· == '/')).reverse
  have within := congrArg List.reverse back
  rw [List.reverse_reverse, List.reverse_append, List.reverse_replicate] at within
  refine ⟨m, n, ?_⟩
  unfold shorn
  rwa [← within]

private theorem shorn_back (text : List Char) : (shorn text).getLast? ≠ some '/' := by
  unfold shorn
  rw [List.getLast?_reverse]
  exact head?_dropWhile_slashes _

private theorem shorn_front (text : List Char) : (shorn text).head? ≠ some '/' := by
  intro slash
  obtain ⟨n, back⟩ := slashes_dropWhile (text.dropWhile (· == '/')).reverse
  have within := congrArg List.reverse back
  rw [List.reverse_reverse, List.reverse_append] at within
  change _ = shorn text ++ _ at within
  apply head?_dropWhile_slashes text
  rw [within, List.head?_append, slash, Option.some_or]

private theorem shorn_of_parts {text : List Char} (filled : text ≠ []) (front : text.head? ≠ some '/')
    (back : text.getLast? ≠ some '/') (m n : Nat) :
    shorn (List.replicate m '/' ++ (text ++ List.replicate n '/')) = text := by
  have kept : (text ++ List.replicate n '/').dropWhile (· == '/') = text ++ List.replicate n '/' := by
    apply dropWhile_solid
    rwa [List.head?_append, List.head?_eq_some_head filled, Option.some_or, ← List.head?_eq_some_head filled]
  have behind : (text ++ List.replicate n '/').reverse.dropWhile (· == '/') = text.reverse := by
    rw [List.reverse_append, List.reverse_replicate, dropWhile_slashes]
    exact dropWhile_solid (by rwa [List.head?_reverse])
  unfold shorn
  rw [dropWhile_slashes, kept, behind, List.reverse_reverse]

variable {provider device : String}

private theorem deviceAfter_eq_some {scheme : String} :
    deviceAfter scheme provider = some device ↔
      device ≠ "" ∧ ∃ rest, provider.toList = scheme.toList ++ rest ∧ device.toList = shorn rest := by
  unfold deviceAfter
  by_cases begins : scheme.toList.isPrefixOf provider.toList = true
  · obtain ⟨rest, whole⟩ := List.isPrefixOf_iff_prefix.mp begins
    have behind : provider.toList.drop scheme.length = rest := by
      rw [← whole, ← String.length_toList, List.drop_left]
    simp only [begins, ↓reduceIte, behind]
    change (if (shorn rest).isEmpty then none else some (String.ofList (shorn rest))) = _ ↔ _
    constructor
    · intro found
      split at found
      · cases found
      next filled =>
        cases found
        refine ⟨?_, rest, whole.symm, String.toList_ofList⟩
        simpa [← String.toList_inj] using filled
    · rintro ⟨filled, other, same, named⟩
      obtain rfl : rest = other := List.append_cancel_left (whole.trans same)
      have some : (shorn rest).isEmpty = false := by
        rw [← named]
        simpa using filled
      rw [some, ← named, String.ofList_toList]
      rfl
  · simp only [begins, Bool.false_eq_true, ↓reduceIte]
    constructor
    · intro impossible
      cases impossible
    · rintro ⟨-, rest, whole, -⟩
      exact absurd (List.isPrefixOf_iff_prefix.mpr ⟨rest, whole.symm⟩) begins

private theorem exists_deviceAfter : (∃ scheme ∈ providerSchemes, deviceAfter scheme provider = some device) ↔
    Names provider device := by
  constructor
  · rintro ⟨scheme, known, found⟩
    obtain ⟨filled, rest, whole, named⟩ := deviceAfter_eq_some.mp found
    obtain ⟨m, n, parts⟩ := shorn_parts rest
    refine ⟨filled, ?_, ?_, scheme, known, m, n, ?_⟩
    · rw [named]
      exact shorn_front rest
    · rw [named]
      exact shorn_back rest
    · rw [named, ← parts, whole]
  · rintro ⟨filled, front, back, scheme, known, m, n, whole⟩
    refine ⟨scheme, known, deviceAfter_eq_some.mpr ⟨filled, _, whole, ?_⟩⟩
    exact (shorn_of_parts (by simpa using filled) front back m n).symm

/-- No text begins with both schemes. -/
theorem schemes_apart {first second : String} (one : first ∈ providerSchemes) (other : second ∈ providerSchemes)
    {rest rest' : List Char} (same : first.toList ++ rest = second.toList ++ rest') : first = second := by
  simp only [providerSchemes, List.mem_cons, List.not_mem_nil, or_false] at one other
  obtain rfl | rfl := one <;> obtain rfl | rfl := other
  · rfl
  · cases (List.cons.inj same).1
  · cases (List.cons.inj same).1
  · rfl

/-- A provider identity is read as the device that it names. -/
theorem deviceOf_ok_iff : deviceOf provider = .ok device ↔ Names provider device := by
  rw [← exists_deviceAfter]
  unfold deviceOf
  cases found : providerSchemes.findSome? fun scheme => deviceAfter scheme provider with
  | none =>
    constructor
    · intro impossible
      cases impossible
    · rintro ⟨scheme, known, named⟩
      rw [List.findSome?_eq_none_iff.mp found scheme known] at named
      cases named
  | some first =>
    obtain ⟨scheme, known, read⟩ := List.exists_of_findSome?_eq_some found
    constructor
    · intro same
      cases same
      exact ⟨scheme, known, read⟩
    · rintro ⟨other, among, named⟩
      obtain ⟨-, rest, whole, -⟩ := deviceAfter_eq_some.mp read
      obtain ⟨-, rest', whole', -⟩ := deviceAfter_eq_some.mp named
      obtain rfl := schemes_apart known among (whole.symm.trans whole')
      rw [named] at read
      cases read
      rfl

/-- A provider identity that names no device is refused, and no other is. -/
theorem deviceOf_error_iff :
    (∃ message details, deviceOf provider = .error (.instanceLookup message details)) ↔
      ∀ device, ¬Names provider device := by
  constructor
  · rintro ⟨message, details, refused⟩ device named
    rw [deviceOf_ok_iff.mpr named] at refused
    cases refused
  · intro nameless
    cases read : deviceOf provider with
    | ok device => exact absurd (deviceOf_ok_iff.mp read) (nameless device)
    | error problem =>
      unfold deviceOf at read
      split at read
      · cases read
      · cases read
        exact ⟨_, _, rfl⟩

theorem Names.unique {other : String} (first : Names provider device) (second : Names provider other) :
    device = other := by
  have read := deviceOf_ok_iff.mpr first
  rw [deviceOf_ok_iff.mpr second] at read
  cases read
  rfl

/-- Behind either scheme, a device that is named is read as itself. -/
theorem Names.prefixed (named : Names provider device) {scheme : String}
    (known : scheme ∈ ["equinixmetal://", "packet://"]) : Names (scheme ++ device) device :=
  ⟨named.filled, named.front, named.back, scheme, known, 0, 0, by simp⟩

theorem Names.solid (named : Names provider device) : provider.isEmpty = false := by
  obtain ⟨scheme, known, m, n, whole⟩ := named.parts
  by_contra blank
  have empty : provider = "" := by simpa using blank
  subst empty
  simp only [List.mem_cons, List.not_mem_nil, or_false] at known
  obtain rfl | rfl := known <;> cases whole

/-- A reply gives the device that the provider identity of its node names. -/
theorem deviceIn_ok_iff {name : Option String} {reply : Except Cluster.CallFailure Cluster.Node} :
    deviceIn name reply = .ok device ↔
      ∃ node provider, reply = .ok node ∧ node.provider = some provider ∧ Names provider device := by
  constructor
  · intro read
    rcases reply with (fault | crash) | node
    · cases read
    · cases read
    · change deviceNamed name node.provider = .ok device at read
      unfold deviceNamed at read
      split at read
      · cases read
      next provider kept =>
        split at read
        next named =>
          cases read
          exact ⟨node, provider, rfl, (Option.filter_eq_some_iff.mp kept).1, deviceOf_ok_iff.mp named⟩
        · cases read
  · rintro ⟨node, provider, rfl, provided, named⟩
    change deviceNamed name node.provider = .ok device
    have kept : (some provider).filter (!·.isEmpty) = some provider := by simp [Option.filter, named.solid]
    simp only [deviceNamed, provided, kept, deviceOf_ok_iff.mpr named]

end Instance

namespace Act

/-- Every assignment goes to the device that is named by the provider identity of the node that was read last. -/
def AssignsNamed (acts : List Act) : Prop :=
  ∀ before device address reply after, acts = before ++ .metal (.assign device address) reply :: after →
    ∃ earlier name timeout node between provider,
      before = earlier ++ .cluster (.readNode name) timeout (.ok node) :: between ∧ reads between = [] ∧
        node.provider = some provider ∧ Instance.Names provider device

private theorem assign_notMem {acts : List Act} (unchanged : changes acts = []) (device address : String)
    (reply : Except Failure Assignment) : metal (.assign device address) reply ∉ acts := by
  intro member
  have none := List.filterMap_eq_nil_iff.mp unchanged _ member
  cases none

private theorem AssignsNamed.of_unchanged {acts : List Act} (unchanged : changes acts = []) : AssignsNamed acts := by
  intro before device address reply after shape
  exact absurd (shape ▸ List.mem_append_right before List.mem_cons_self) (assign_notMem unchanged device address reply)

private theorem AssignsNamed.after_unchanged {acts first : List Act} (named : AssignsNamed acts) (opened : changes first = []) :
    AssignsNamed (first ++ acts) := by
  intro before device address reply after shape
  rcases List.append_eq_append_iff.mp shape with ⟨more, rfl, others⟩ | ⟨more, rfl, others⟩
  · obtain ⟨earlier, name, timeout, node, between, provider, rfl, told⟩ := named more device address reply after others
    exact ⟨first ++ earlier, name, timeout, node, between, provider, (List.append_assoc ..).symm, told⟩
  · cases more with
    | nil =>
      obtain ⟨earlier, _, _, _, _, _, impossible, -⟩ := named [] device address reply after others.symm
      simp at impossible
    | cons act more =>
      obtain ⟨rfl, -⟩ := List.cons.inj others
      exact absurd (List.mem_append_right before List.mem_cons_self) (assign_notMem opened device address reply)

private theorem AssignsNamed.before_unchanged {acts rest : List Act} (named : AssignsNamed acts) (closed : changes rest = []) :
    AssignsNamed (acts ++ rest) := by
  intro before device address reply after shape
  have unclosed := assign_notMem closed device address reply
  rcases List.append_eq_append_iff.mp shape with ⟨more, rfl, rfl⟩ | ⟨more, rfl, others⟩
  · exact absurd (List.mem_append_right more List.mem_cons_self) unclosed
  · cases more with
    | nil =>
      obtain rfl := others
      exact absurd List.mem_cons_self unclosed
    | cons act more =>
      obtain ⟨rfl, -⟩ := List.cons.inj others
      exact named before device address reply more rfl

end Act

namespace Failover

variable {limits : Limits} {reservation : Reservation} {nodes : List (Option Cluster.Node)} {acts : List Act}

private theorem assignsNamed_handOver {node : Option String} {address : String} {result : Except Failure Move}
    (done : Job.Does (handOver limits reservation node address) acts result) : Act.AssignsNamed acts := by
  obtain ⟨reply, rest, rfl, later⟩ := does_handOver.mp done
  cases read : Instance.deviceIn node reply with
  | error failure =>
    simp only [read] at later
    obtain ⟨rfl, -⟩ := later
    exact .of_unchanged rfl
  | ok device =>
    simp only [read] at later
    obtain ⟨moved, moves, -⟩ := later
    have asked : ∀ act ∈ rest, act.request.nodeRead? = none ∧
        ∀ other address, act.request = .metal (.assign other address) → other = device := by
      have asks : (move reservation device).Uses fun request => request.nodeRead? = none ∧
          ∀ other address, request = .metal (.assign other address) → other = device := by
        apply uses_move
        · exact fun _ => ⟨rfl, nofun⟩
        · refine ⟨rfl, fun _ _ same => ?_⟩
          cases same
          rfl
        · exact fun _ => ⟨rfl, nofun⟩
      exact Job.uses_acts asks moves
    obtain ⟨found, provider, rfl, provided, named⟩ := Instance.deviceIn_ok_iff.mp read
    intro before other target given after shape
    cases before with
    | nil => cases (List.cons.inj shape).1
    | cons first between =>
      obtain ⟨rfl, within⟩ := List.cons.inj shape
      obtain rfl : other = device :=
        (asked (.metal (.assign other target) given) (within ▸ List.mem_append_right between List.mem_cons_self)).2 _ _ rfl
      refine ⟨[], node, limits.api, found, between, provider, rfl, ?_, provided, named⟩
      rw [Act.reads, List.filterMap_eq_nil_iff]
      exact fun act member => (asked act (within ▸ List.mem_append_left _ member)).1

private theorem assignsNamed_run {eipUrl : String} {result : Except Failure Move}
    (done : Job.Does (run limits nodes reservation eipUrl) acts result) : Act.AssignsNamed acts := by
  obtain ⟨ports, rest, rfl, later⟩ := does_run done
  split at later
  · obtain ⟨rfl, -⟩ := later
    exact .of_unchanged rfl
  split at later
  · obtain ⟨rfl, -⟩ := later
    exact .of_unchanged rfl
  obtain ⟨sought, finding, closing, rfl, searched, settled⟩ := later
  have closes : Act.AssignsNamed closing := by
    cases finding with
    | lost failure =>
      obtain ⟨rfl, -⟩ := settled
      exact .of_unchanged rfl
    | nothing checked =>
      obtain ⟨rfl, -⟩ := settled
      exact .of_unchanged rfl
    | found node address => exact assignsNamed_handOver settled
  have opened : Act.changes (⟨.ports, ports⟩ :: sought) = [] := searched.changes
  exact closes.after_unchanged opened

end Failover

private theorem NodePass.assignsNamed_run {setup : Setup} {nodes : List (Option Cluster.Node)} {acts : List Act}
    {result : Except Failure Outcome} (done : Job.Does (run setup nodes) acts result) : Act.AssignsNamed acts := by
  rcases does_run_cases done with ⟨state, rfl, rfl⟩ | ⟨within, middle, left, rfl, rfl, stopped |
    ⟨ports, reservations, reservation, checks, candidates, tried, moved, gate, members, failover, rfl, rfl⟩⟩
  · exact .of_unchanged rfl
  · apply Act.AssignsNamed.of_unchanged
    change Act.changes (within ++ [⟨.leaveGuard, left⟩]) = []
    rw [Act.changes_append, stopped.untouched.2]
    rfl
  · have closed := (closing_untouched moved left).2.1
    have opened : Act.changes (⟨.enterGuard, true⟩ :: lead setup ports reservations checks) = [] := gate.untouched.2
    simpa using ((Failover.assignsNamed_run failover).before_unchanged closed).after_unchanged opened

namespace Instance

/-- A provider identity is accepted exactly if it names a device, which is then the only one and is named by either
scheme in front of it. A look-up gives the device that the node's provider identity names, and it is that device
which the elastic address is assigned to. -/
theorem provider_names_device :
    (∀ provider device, deviceOf provider = .ok device ↔ Names provider device) ∧
    (∀ provider, (∃ message details, deviceOf provider = .error (.instanceLookup message details)) ↔
      ∀ device, ¬Names provider device) ∧
    (∀ provider device other, Names provider device → Names provider other → device = other) ∧
    (∀ provider device, deviceOf provider = .ok device →
      deviceOf ("equinixmetal://" ++ device) = .ok device ∧ deviceOf ("packet://" ++ device) = .ok device) ∧
    (∀ timeout name acts device, Job.Does (instanceId timeout name) acts (.ok device) ↔
      ∃ node provider, acts = [.cluster (.readNode name) timeout (.ok node)] ∧ node.provider = some provider ∧
        Names provider device) ∧
    (∀ limits nodes reservation eipUrl acts result,
      Job.Does (Failover.run limits nodes reservation eipUrl) acts result → Act.AssignsNamed acts) ∧
    ∀ setup nodes acts result, Job.Does (NodePass.run setup nodes) acts result → Act.AssignsNamed acts := by
  refine ⟨fun _ _ => deviceOf_ok_iff, fun _ => deviceOf_error_iff, fun _ _ _ first second => first.unique second,
    ?_, ?_, ?_, ?_⟩
  · intro provider device read
    have named := deviceOf_ok_iff.mp read
    exact ⟨deviceOf_ok_iff.mpr (named.prefixed (by simp)), deviceOf_ok_iff.mpr (named.prefixed (by simp))⟩
  · intro timeout name acts device
    rw [does_instanceId]
    constructor
    · rintro ⟨reply, rfl, read⟩
      obtain ⟨node, provider, rfl, provided, named⟩ := deviceIn_ok_iff.mp read.symm
      exact ⟨node, provider, rfl, provided, named⟩
    · rintro ⟨node, provider, rfl, provided, named⟩
      exact ⟨.ok node, rfl, (deviceIn_ok_iff.mpr ⟨node, provider, rfl, provided, named⟩).symm⟩
  · intro limits nodes reservation eipUrl acts result done
    exact Failover.assignsNamed_run done
  · intro setup nodes acts result done
    exact NodePass.assignsNamed_run done

end Instance

/-- A node whose provider identity has slashes around the device and one within it. -/
def World.slashed : World where
  cluster := {
    nodes := [some {
      metadata := some { name := some "first", labels := some (Cluster.controlPlaneLabels.map (·, .text "")) }
      provider := some "packet:///lot/device//"
      addresses := [some ⟨"ExternalIP", "10.0.0.1"⟩] }] }
  ledger := [⟨"reservation", "1.2.3.4", ["eip"], []⟩]
  script := .byTarget [("GET https://10.0.0.1:6443/healthz", [.answered 200 []])]
  ports := ⟨.number 6443, .number 6443, true⟩

namespace World.slashed

def failover : Job Move :=
  Failover.run ⟨none, none⟩ slashed.cluster.nodes ⟨"reservation", "1.2.3.4", ["eip"], []⟩ "https://1.2.3.4:6443/healthz"

def pass : Job NodePass.Outcome := NodePass.run ⟨"project", "eip", .unhealthy, none, none⟩ slashed.cluster.nodes

theorem named : Instance.Names "packet:///lot/device//" "lot/device" :=
  ⟨by decide +kernel, by decide +kernel, by decide +kernel, "packet://", by simp, 1, 2, by decide +kernel⟩

/-- The elastic address goes to the device of the node. -/
theorem provider_names_device_slashed :
    Instance.deviceOf "packet:///lot/device//" = .ok "lot/device" ∧
    (∀ device, Instance.Names "packet:///lot/device//" device → "lot/device" = device) ∧
    Instance.deviceOf ("equinixmetal://" ++ "lot/device") = .ok "lot/device" ∧
    Act.changes (slashed.acts failover) = [.assign "lot/device" "1.2.3.4"] ∧ Act.AssignsNamed (slashed.acts failover) ∧
    Act.changes (slashed.acts pass) = [.assign "lot/device" "1.2.3.4"] ∧ Act.AssignsNamed (slashed.acts pass) := by
  obtain ⟨reads, -, unique, parses, -, moves, passes⟩ := Instance.provider_names_device
  have read := (reads _ _).mpr named
  exact ⟨read, fun device => unique _ _ device named, (parses _ _ read).1, by decide +kernel,
    moves _ _ _ _ _ _ (slashed.does_acts failover), by decide +kernel, passes _ _ _ _ (slashed.does_acts pass)⟩

end World.slashed

end ElasticEndpoint
