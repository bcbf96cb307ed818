import ElasticEndpoint.Proofs.MirrorPublished

/-!
Node ports of the mirror. A pass makes the ports of the mirrored service anew from those of the server's service, so
what the cluster had assigned to a port is lost, even where the port is still there.
-/

namespace ElasticEndpoint

namespace Cluster

namespace ServicePort

def name? (port : ServicePort) : Option Value := port.others.lookup "name"

def protocol? (port : ServicePort) : Option Value := port.others.lookup "protocol"

def nodePort? (port : ServicePort) : Option Value := port.others.lookup "nodePort"

end ServicePort

def Service.portList (service : Service) : List ServicePort := ((service.spec.bind (·.ports)).getD []).filterMap id

end Cluster

namespace ServicePass

open Cluster (Service ServicePort findFirst)

variable {setup : Setup} {services : List (Option Service)} {mode : Mode} {world : World} {server : Service}

/-- A port of the stored mirror that is still there, as it was and as it is. -/
structure Remains (before after : World) (old new : ServicePort) : Prop where
  stored : ∃ former, findFirst (isMirror ·.metadata) before.cluster.services = .ok (some former) ∧ old ∈ former.portList
  present : ∃ service, findFirst (isMirror ·.metadata) after.cluster.services = .ok (some service) ∧
    new ∈ service.portList
  name : new.name? = old.name?
  protocol : new.protocol? = old.protocol?
  port : new.port = old.port

def KeepsNodePorts (before after : World) : Prop :=
  ∀ old new, Remains before after old new → new.nodePort? = old.nodePort?

private theorem presents_of_mirrored (mirrored : (world.run (run setup services mode)).1 = .ok .mirrored) :
    ∃ eip desired server old service, server? services = some server ∧
      findFirst (isMirror ·.metadata) (world.run (run setup services mode)).2.cluster.services = .ok (some service) ∧
        Presents eip desired server old service := by
  obtain ⟨plan, fits, completes⟩ := completes_of_mirrored mirrored
  obtain ⟨server, found, listed⟩ := server_of_chosen fits.chosen
  obtain ⟨written, renewed, shown⟩ := completes.services
  obtain ⟨old, new, -, made, -, there, -⟩ :=
    Cluster.put_cases (names_renewService plan.eip (plan.ports world.ports)) renewed
  obtain ⟨_, service, known, status, -, kept, -⟩ := Cluster.put_cases (names_published plan.eip) shown
  rw [there] at known
  cases known
  cases status
  exact ⟨plan.eip, _, server, old, _, found, kept, presents_of_renewService listed made⟩

/-- All but the number of a mirrored port is copied from a port of the server's service. -/
theorem Presents.copies {eip : String} {desired : Net.Port} {old : Option Service} {service : Service}
    (presents : Presents eip desired server old service) {new : ServicePort} (among : new ∈ service.portList) :
    ∃ port ∈ server.portList, new.target = port.target ∧ new.others = port.others := by
  obtain ⟨first, rest, listed, written⟩ := presents.ports
  unfold Service.portList at among ⊢
  rw [written] at among
  rw [listed]
  rcases List.mem_cons.mp among with rfl | later
  · exact ⟨first, List.mem_cons_self, rfl, rfl⟩
  · exact ⟨new, List.mem_cons_of_mem _ later, rfl, rfl⟩

private theorem unassigned_of_mirrored (mirrored : (world.run (run setup services mode)).1 = .ok .mirrored)
    (found : server? services = some server) (unassigned : ∀ port ∈ server.portList, port.nodePort? = none)
    {old new : ServicePort} (remains : Remains world (world.run (run setup services mode)).2 old new) :
    new.nodePort? = none := by
  obtain ⟨eip, desired, other, former, service, same, kept, presents⟩ := presents_of_mirrored mirrored
  obtain rfl := Option.some.inj (found.symm.trans same)
  obtain ⟨_, there, among⟩ := remains.present
  rw [kept] at there
  cases there
  obtain ⟨port, listed, -, fields⟩ := presents.copies among
  have copied : new.nodePort? = port.nodePort? := congrArg (List.lookup "nodePort") fields
  exact copied.trans (unassigned port listed)

/-- Where the server's ports have no node ports, a pass that mirrors keeps those of the mirror exactly if there are none
to keep. -/
theorem keepsNodePorts_iff (mirrored : (world.run (run setup services mode)).1 = .ok .mirrored)
    (found : server? services = some server) (unassigned : ∀ port ∈ server.portList, port.nodePort? = none) :
    KeepsNodePorts world (world.run (run setup services mode)).2 ↔
      ∀ old new, Remains world (world.run (run setup services mode)).2 old new → old.nodePort? = none := by
  constructor
  · intro keeps old new remains
    rw [← keeps old new remains]
    exact unassigned_of_mirrored mirrored found unassigned remains
  · intro free old new remains
    rw [free old new remains]
    exact unassigned_of_mirrored mirrored found unassigned remains

def namedPort (port : Int) (others : Cluster.Fields) : ServicePort where
  port := .number port
  target := .int 6443
  others := ("name", .text "https") :: ("protocol", .text "TCP") :: others

def namedServer : Service := { plainServer with spec := some { ports := some [some (namedPort 443 [])] } }

private theorem unassigned_namedServer : ∀ port ∈ namedServer.portList, port.nodePort? = none := by
  intro port listed
  cases List.mem_singleton.mp listed
  rfl

def assignedMirror : Service where
  metadata := some { name := some mirrorName, space := some mirrorSpace }
  spec := some { loadBalancerIP := some "1.2.3.4", ports := some [some (namedPort 6443 [("nodePort", .int 31443)])] }

def assigned : World := { interrupted.calmed with
  cluster := { interrupted.cluster with services := [some namedServer, some assignedMirror] } }

def namedPass : Job Outcome := run ⟨"project", "eip", none⟩ [some namedServer] .sync

private theorem remains_assigned : Remains assigned (assigned.run namedPass).2
    (namedPort 6443 [("nodePort", .int 31443)]) (namedPort 6443 []) where
  stored := ⟨assignedMirror, rfl, List.mem_cons_self⟩
  present := ⟨_, rfl, List.mem_cons_self⟩
  name := rfl
  protocol := rfl
  port := rfl

theorem keepsNodePorts_iff_assigned :
    (assigned.run namedPass).1 = .ok .mirrored ∧ server? [some namedServer] = some namedServer ∧
      (∀ port ∈ namedServer.portList, port.nodePort? = none) ∧
      (KeepsNodePorts assigned (assigned.run namedPass).2 ↔
        ∀ old new, Remains assigned (assigned.run namedPass).2 old new → old.nodePort? = none) :=
  ⟨rfl, rfl, unassigned_namedServer, keepsNodePorts_iff rfl rfl unassigned_namedServer⟩

/-- The node port of a port that is still there is not kept. -/
theorem not_keepsNodePorts : ¬∀ world setup services mode server,
    (world.run (run setup services mode)).1 = .ok .mirrored → server? services = some server →
      (∀ port ∈ server.portList, port.nodePort? = none) →
        KeepsNodePorts world (world.run (run setup services mode)).2 := by
  intro keeps
  have kept := keeps assigned ⟨"project", "eip", none⟩ [some namedServer] .sync namedServer rfl rfl
    unassigned_namedServer
  cases kept _ _ remains_assigned

end ServicePass

end ElasticEndpoint
