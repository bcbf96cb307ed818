import ElasticEndpoint.Proofs.ServiceHealing

/-!
What a mirroring pass leaves behind. The mirrored endpoints and the mirrored service come of what was
there before and of the server's, field by field, and nothing else in the cluster changes.
-/

namespace ElasticEndpoint.ServicePass

open Cluster (Service Endpoints ServicePort those others)

/-- The server's service among those handed over. -/
def server? (services : List (Option Service)) : Option Service := (services.filterMap id).find? (isServer ·.metadata)

/-- The ports that a pass mirrors are those of the first service with the server's name. -/
theorem server_of_chosen {mode : Mode} {services : List (Option Service)} {first : ServicePort}
    {rest : List (Option ServicePort)} (picked : chosen mode services = .ok (some (first, rest))) :
    ∃ server, server? services = some server ∧ server.spec.bind (·.ports) = some (some first :: rest) := by
  induction services with
  | nil =>
    unfold chosen at picked
    split at picked <;> cases picked
  | cons service services ih =>
    obtain _ | ⟨_ | metadata, spec, status, fields⟩ := service
    · cases picked
    · cases picked
    unfold chosen at picked
    dsimp only at picked
    split at picked
    · rename_i named
      refine ⟨⟨some metadata, spec, status, fields⟩, ?_, ?_⟩
      · have found : isServer (some metadata) = true := by
          rw [Bool.and_comm] at named
          exact named
        simp [server?, found]
      · cases listed : spec.bind (·.ports) with
        | none => simp [listed] at picked
        | some ports =>
          simp only [listed, Option.getD_some] at picked
          split at picked <;> cases picked
          rfl
    · rename_i named
      obtain ⟨server, found, ports⟩ := ih picked
      refine ⟨server, ?_, ports⟩
      have other : isServer (some metadata) = false := by
        rw [Bool.and_comm] at named
        exact Bool.eq_false_iff.mpr named
      simpa [server?, other] using found

/-- How mirrored endpoints come of the server's and of those that were there. -/
structure Repeats (served : Endpoints) (old : Option Endpoints) (mine : Endpoints) : Prop where
  subsets : mine.subsets = some (served.subsets.getD [])
  kept : ∀ former, old = some former → mine.metadata = former.metadata ∧ mine.others = former.others
  made : old = none → mine.metadata = some { name := some mirrorName, space := some mirrorSpace } ∧ mine.others = []

private theorem repeats_of_renewEndpoints {served mine : Endpoints} {old : Option Endpoints}
    (made : renewEndpoints served old = some mine) : Repeats served old mine := by
  cases made
  constructor
  · rfl
  · rintro former rfl
    exact ⟨rfl, rfl⟩
  · rintro rfl
    exact ⟨rfl, rfl⟩

/-- How a mirrored service presents an elastic address on a port, given the server's service and the one that was
there. -/
structure Presents (eip : String) (desired : Net.Port) (server : Service) (old : Option Service) (service : Service) :
    Prop where
  address : service.spec.bind (·.loadBalancerIP) = some eip
  ports : ∃ first rest, server.spec.bind (·.ports) = some (some first :: rest) ∧
    service.spec.bind (·.ports) = some (some { first with port := desired } :: rest)
  status : service.status = some (ingressStatus eip)
  kept : ∀ former, old = some former → service.metadata = former.metadata ∧
    service.spec.map (·.others) = former.spec.map (·.others) ∧ service.others = former.others
  made : old = none →
    service.metadata = some { name := some mirrorName, space := some mirrorSpace,
                              others := [("annotations", .object [poolMark])] } ∧
      service.spec.map (·.others) = some [("type", .text "LoadBalancer")] ∧ service.others = []

theorem presents_of_renewService {eip : String} {desired : Net.Port} {server : Service} {first : ServicePort}
    {rest : List (Option ServicePort)} {old : Option Service} {new : Service}
    (listed : server.spec.bind (·.ports) = some (some first :: rest))
    (made : renewService eip (some { first with port := desired } :: rest) old = some new) :
    Presents eip desired server old (published eip new) := by
  cases old with
  | none =>
    cases made
    exact ⟨rfl, ⟨first, rest, listed, rfl⟩, rfl, nofun, fun _ => ⟨rfl, rfl, rfl⟩⟩
  | some existing =>
    obtain ⟨spec, specified, rfl⟩ := Option.map_eq_some_iff.mp made
    refine ⟨rfl, ⟨first, rest, listed, rfl⟩, rfl, ?_, nofun⟩
    rintro _ ⟨⟩
    rw [specified]
    exact ⟨rfl, rfl, rfl⟩

/-- What a pass publishes, and all that it leaves alone. -/
structure Publishes (eip : String) (server : Service) (before after : World) : Prop where
  endpoints : ∃ served old mine, those (isServer ·.metadata) before.cluster.endpoints = [served] ∧
    those (isMirror ·.metadata) before.cluster.endpoints = old.toList ∧
    those (isMirror ·.metadata) after.cluster.endpoints = [mine] ∧ Repeats served old mine
  service : ∃ old service, those (isMirror ·.metadata) before.cluster.services = old.toList ∧
    those (isMirror ·.metadata) after.cluster.services = [service] ∧
    Presents eip after.ports.desired server old service
  otherEndpoints : others (isMirror ·.metadata) after.cluster.endpoints =
    others (isMirror ·.metadata) before.cluster.endpoints
  otherServices : others (isMirror ·.metadata) after.cluster.services =
    others (isMirror ·.metadata) before.cluster.services
  nodes : after.cluster.nodes = before.cluster.nodes
  ledger : after.ledger = before.ledger
  guard : after.guard = before.guard
  lastMove : after.lastMove = before.lastMove

private theorem nodes_run {α : Type} (world : World) (job : Job α) :
    (world.run job).2.cluster.nodes = world.cluster.nodes := by
  obtain ⟨last, answered, same⟩ := world.run_answers job
  rw [same.eq]
  change last.cluster.nodes = world.cluster.nodes
  exact answered.keeps (fun act _ state kept => (World.answer_nodes act.request state).trans kept) rfl

/-- A pass that mirrors publishes its reservation's address with the ports of the first service of the server's
name. -/
theorem publishes (world : World) (setup : Setup) (services : List (Option Service)) (mode : Mode)
    (distinct : world.cluster.Distinct) (mirrored : (world.run (run setup services mode)).1 = .ok .mirrored) :
    ∃ reservation server, Reservation.firstWith [setup.tag] world.ledger = some reservation ∧
      server? services = some server ∧
      Publishes reservation.address server world (world.run (run setup services mode)).2 := by
  have still := (quiet_run setup services mode).still world
  have nodes := nodes_run world (run setup services mode)
  obtain ⟨plan, fits, completes⟩ := completes_of_mirrored mirrored
  obtain ⟨reservation, matched, -, address⟩ := fits.matched
  obtain ⟨server, found, listed⟩ := server_of_chosen fits.chosen
  obtain ⟨noted, ⟨served, there, repeated⟩, written, renewed, shown⟩ := completes
  obtain ⟨oldEndpoints, mine, hadEndpoints, madeEndpoints, nowEndpoints, keptEndpoints⟩ :=
    Cluster.those_put (names_renewEndpoints served) repeated (Cluster.those_single distinct.endpoints)
  obtain ⟨old, new, hadService, madeService, once, keptOnce⟩ :=
    Cluster.those_put (names_renewService plan.eip (plan.ports world.ports)) renewed
      (Cluster.those_single distinct.services)
  -- The status is published on the service that was just written.
  obtain ⟨again, service, hadAgain, madeAgain, nowService, keptAgain⟩ :=
    Cluster.those_put (names_published plan.eip) shown (Nat.le_of_eq (by rw [once]; rfl))
  obtain rfl : again = some new := by
    rw [once] at hadAgain
    cases again <;> cases hadAgain
    rfl
  cases madeAgain
  have presents := presents_of_renewService listed madeService
  have desired : (world.run (run setup services mode)).2.ports.desired = (world.ports.observe plan.target).desired :=
    congrArg Ports.desired noted
  rw [← address, ← desired] at presents
  refine ⟨reservation, server, matched, found, ?_⟩
  constructor
  · refine ⟨served, oldEndpoints, mine, ?_, hadEndpoints, nowEndpoints, repeats_of_renewEndpoints madeEndpoints⟩
    exact Cluster.those_of_single there (Cluster.those_single distinct.endpoints)
  · exact ⟨old, _, hadService, address ▸ nowService, presents⟩
  · exact keptEndpoints
  · exact keptAgain.trans keptOnce
  · exact nodes
  · exact still.ledger
  · exact still.guard
  · exact still.lastMove

/-- A mirror of former days, with a port and an address of then, beside the server's service. -/
def outdated : World where
  cluster := {
    services := [some plainServer, some {
      metadata := some { name := some mirrorName, space := some mirrorSpace, labels := some [("tier", .text "front")] }
      spec := some { loadBalancerIP := some "9.9.9.9", ports := some [none], others := [("type", .text "NodePort")] } }]
    endpoints := [some { metadata := plainServer.metadata, subsets := some [.text "10.0.0.1"] }] }
  ledger := [⟨"reservation", "1.2.3.4", ["eip"], []⟩]

theorem publishes_outdated :
    outdated.cluster.Distinct ∧ (outdated.run plainPass).1 = .ok .mirrored ∧ ∃ reservation server,
      Reservation.firstWith ["eip"] outdated.ledger = some reservation ∧ server? [some plainServer] = some server ∧
        Publishes reservation.address server outdated (outdated.run plainPass).2 := by
  have distinct : outdated.cluster.Distinct := ⟨by decide, by decide⟩
  have mirrored : (outdated.run plainPass).1 = .ok .mirrored := by rfl
  exact ⟨distinct, mirrored, publishes outdated _ _ _ distinct mirrored⟩

end ElasticEndpoint.ServicePass
