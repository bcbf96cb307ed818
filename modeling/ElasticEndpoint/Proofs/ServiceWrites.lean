import ElasticEndpoint.Proofs.ServicePassActs
import ElasticEndpoint.Proofs.StoreObjects
import ElasticEndpoint.Proofs.WorldActs

/-!
What a service pass writes. Each part of a pass either writes its object, and then in one way only, or
fails and leaves the objects as they are; where no faults are due it fails only if there is no such way.
-/

namespace ElasticEndpoint.ServicePass

open Cluster (Service Endpoints ServicePort ServiceSpec CallFailure findFirst put)
open World (answer Calm)

abbrev isServer (metadata : Option Cluster.Meta) : Bool := Cluster.isNamed (some serverName) serverSpace metadata

abbrev isMirror (metadata : Option Cluster.Meta) : Bool := Cluster.isNamed (some mirrorName) mirrorSpace metadata

theorem isServer_of_isMirror {metadata : Option Cluster.Meta} (mirror : isMirror metadata = true) :
    isServer metadata = false := by
  unfold isMirror Cluster.isNamed at mirror
  unfold isServer Cluster.isNamed
  rw [Bool.and_eq_true, beq_iff_eq] at mirror
  rw [mirror.1]
  rfl

/-- The mirrored endpoints that come of those that are there, if any. -/
def renewEndpoints (served : Endpoints) (mine : Option Endpoints) : Option Endpoints :=
  some (repeating served (mine.getD newEndpoints))

/-- The mirrored service that comes of the one that is there, if any; one without a specification cannot be
renewed. -/
def renewService (eip : String) (ports : List (Option ServicePort)) : Option Service → Option Service
  | none => some (newService eip ports)
  | some existing => existing.spec.map (updated eip ports existing)

theorem names_renewEndpoints (served : Endpoints) : Cluster.Names (isMirror ·.metadata) (renewEndpoints served) := by
  rintro (_ | mine) _ kept ⟨⟩
  · rfl
  · exact kept

theorem names_renewService (eip : String) (ports : List (Option ServicePort)) :
    Cluster.Names (isMirror ·.metadata) (renewService eip ports) := by
  rintro (_ | existing) new kept made
  · cases made
    rfl
  · obtain ⟨spec, -, rfl⟩ := Option.map_eq_some_iff.mp made
    exact kept

theorem names_published (eip : String) : Cluster.Names (isMirror ·.metadata) (Option.map (published eip)) := by
  rintro (_ | existing) _ kept ⟨⟩
  exact kept

/-- The endpoints before and after the server's are mirrored. -/
def EndpointsTo (before after : List (Option Endpoints)) : Prop :=
  ∃ served, findFirst (isServer ·.metadata) before = .ok (some served) ∧
    put (isMirror ·.metadata) (renewEndpoints served) before = some after

variable {α : Type} {message : String} {timeout : Option Duration} {eip : String}
  {ports : List (Option ServicePort)} {world last : World} {acts : List Act} {result : Except Failure Unit}

private theorem reported_ok {reply : Except CallFailure α} {value : α} :
    reported message reply = .ok value ↔ reply = .ok value := by
  rcases reply with (fault | crash) | other <;> simp [reported]

theorem located_some {reply : Except CallFailure α} {value : α} :
    located message reply = .ok (some value) ↔ reply = .ok value := by
  rcases reply with (fault | crash) | other
  · by_cases missing : fault.isNotFound = true <;> simp [located, reported, missing]
  · simp [located]
  · simp [located]

private theorem reported_error (failure : CallFailure) :
    ∃ other, (reported message (.error failure) : Except Failure α) = .error other := by
  cases failure <;> exact ⟨_, rfl⟩

/-! A look-up of the mirrored object with a write after it, where either may meet a fault unless the world
is calm. -/

section

variable {calm : Prop} {test : α → Bool} {renew : Option α → Option α} {before after : List (Option α)}
  {found : Except CallFailure α} {written : Except CallFailure Unit} {mine : Option α} {failure : Failure}

/-- What is reported is there, and in a calm world a failure tells that it is not. -/
theorem seen_of_reported (message : String)
    (looked : (¬calm ∧ ∃ failure, found = .error failure) ∨ found = Cluster.require test before) :
    (∀ object, reported message found = .ok object → findFirst test before = .ok (some object)) ∧
      (calm → ∀ failure, reported message found = .error failure → ∀ object, findFirst test before ≠ .ok (some object)) := by
  rcases looked with ⟨stormy, failure, rfl⟩ | rfl
  · exact ⟨fun object same => (by cases reported_ok.mp same), fun still => absurd still stormy⟩
  · refine ⟨fun object same => Cluster.require_eq_ok.mp (reported_ok.mp same), fun _ failure failed object there => ?_⟩
    rw [Cluster.require_eq_ok.mpr there] at failed
    cases failed

/-- What is located is there, and in a calm world nothing that is there is missed. -/
theorem seen_of_located (looked : (¬calm ∧ ∃ failure, found = .error failure) ∨ found = Cluster.require test before)
    (saw : located message found = .ok mine) :
    (∀ object, mine = some object → findFirst test before = .ok (some object)) ∧
      (calm → findFirst test before = .ok mine) := by
  cases mine with
  | some object =>
    have same := located_some.mp saw
    rcases looked with ⟨-, failure, failed⟩ | looked
    · rw [same] at failed
      cases failed
    · have there := Cluster.require_eq_ok.mp (looked.symm.trans same)
      exact ⟨fun _ given => by cases given; exact there, fun _ => there⟩
  | none =>
    refine ⟨nofun, fun still => ?_⟩
    rcases looked with ⟨stormy, -⟩ | rfl
    · exact absurd still stormy
    · unfold Cluster.require at saw
      rcases there : findFirst test before with failure | _ | object
      · obtain rfl := Cluster.findFirst_error there
        simp [there, located] at saw
      · rfl
      · simp [there, located] at saw

/-- In a calm world only a blank place keeps a look-up from an answer. -/
theorem put_of_unlocated (looked : (¬calm ∧ ∃ failure, found = .error failure) ∨ found = Cluster.require test before)
    (failed : located message found = .error failure) (still : calm) : put test renew before = none := by
  rcases looked with ⟨stormy, -⟩ | rfl
  · exact absurd still stormy
  · unfold Cluster.require at failed
    unfold put
    rcases there : findFirst test before with other | _ | object
    · rfl
    · simp [there, located, Cluster.notFound, Cluster.Fault.isNotFound] at failed
    · simp [there, located] at failed

private theorem put_of_unrenewed (looked : (¬calm ∧ ∃ failure, found = .error failure) ∨ found = Cluster.require test before)
    (saw : located message found = .ok mine) (unmade : renew mine = none) (still : calm) :
    put test renew before = none := by
  unfold put
  rw [(seen_of_located looked saw).2 still]
  cases mine <;> simp [unmade]

/-- What a write of objects comes to, and the objects after it. -/
def applied (before : List (Option α)) :
    Except CallFailure (List (Option α)) → Except CallFailure Unit × List (Option α)
  | .ok after => (.ok (), after)
  | .error failure => (.error failure, before)

/-- How a write of the cluster shows in the objects of its kind: it meets a fault, or comes to what it is
applied to. -/
def Wrote (calm : Prop) (before after : List (Option α)) (written : Except CallFailure Unit)
    (write : Except CallFailure (List (Option α))) : Prop :=
  (¬calm ∧ (∃ failure, written = .error failure) ∧ after = before) ∨ (written, after) = applied before write

/-- An object is put, or all are left as they are, in a calm world only because it cannot be put. -/
def PutOrLeft (calm : Prop) (renew : Option α → Option α) (test : α → Bool) (before after : List (Option α))
    (result : Except Failure Unit) : Prop :=
  (result = .ok () ∧ put test renew before = some after) ∨
    (∃ failure, result = .error failure) ∧ after = before ∧ (calm → put test renew before = none)

private theorem put_of_write {new : α} {note : String}
    (seen : (∀ object, mine = some object → findFirst test before = .ok (some object)) ∧
      (calm → findFirst test before = .ok mine)) (made : renew mine = some new)
    (wrote : Wrote calm before after written
      (mine.elim (Cluster.add test new before) fun _ => Cluster.change test (fun _ => new) before)) :
    PutOrLeft calm renew test before after (reported note written) := by
  rcases wrote with ⟨stormy, ⟨failure, rfl⟩, same⟩ | wrote
  · exact .inr ⟨reported_error failure, same, fun still => absurd still stormy⟩
  cases mine with
  | none =>
    unfold Cluster.add at wrote
    rcases there : findFirst test before with failure | _ | object
    · simp only [there, Option.elim, applied, Prod.mk.injEq] at wrote
      obtain ⟨rfl, rfl⟩ := wrote
      exact .inr ⟨reported_error failure, rfl, fun _ => by simp [put, there]⟩
    · simp only [there, Option.elim, applied, Prod.mk.injEq] at wrote
      obtain ⟨rfl, rfl⟩ := wrote
      exact .inl ⟨rfl, by simp [put, there, made]⟩
    · simp only [there, Option.elim, applied, Prod.mk.injEq] at wrote
      obtain ⟨rfl, rfl⟩ := wrote
      refine .inr ⟨reported_error _, rfl, fun still => ?_⟩
      rw [seen.2 still] at there
      cases there
  | some object =>
    have there := seen.1 object rfl
    obtain ⟨others, changed, -⟩ := Cluster.change_of_found there fun _ => new
    simp only [changed, Option.elim, applied, Prod.mk.injEq] at wrote
    obtain ⟨rfl, rfl⟩ := wrote
    refine .inl ⟨rfl, ?_⟩
    simp only [put, there, made, Option.bind_some, changed]
    rfl

end

private theorem wrote_endpoints {calm : Prop} {store after : Cluster.Store} {written : Except CallFailure Unit}
    {write : Except CallFailure (List (Option Endpoints))}
    (called : (¬calm ∧ (∃ failure, written = .error failure) ∧ after = store) ∨
      written = (store.withEndpoints write).1 ∧ after = (store.withEndpoints write).2) :
    after.services = store.services ∧ Wrote calm store.endpoints after.endpoints written write := by
  rcases called with ⟨stormy, failed, rfl⟩ | ⟨rfl, rfl⟩
  · exact ⟨rfl, .inl ⟨stormy, failed, rfl⟩⟩
  · cases write <;> exact ⟨rfl, .inr rfl⟩

private theorem wrote_services {calm : Prop} {store after : Cluster.Store} {written : Except CallFailure Unit}
    {write : Except CallFailure (List (Option Service))}
    (called : (¬calm ∧ (∃ failure, written = .error failure) ∧ after = store) ∨
      written = (store.withServices write).1 ∧ after = (store.withServices write).2) :
    after.endpoints = store.endpoints ∧ Wrote calm store.services after.services written write := by
  rcases called with ⟨stormy, failed, rfl⟩ | ⟨rfl, rfl⟩
  · exact ⟨rfl, .inl ⟨stormy, failed, rfl⟩⟩
  · cases write <;> exact ⟨rfl, .inr rfl⟩

/-- The endpoints are mirrored, or left as they are. -/
theorem mirrorEndpoints_ends (done : Job.Does (mirrorEndpoints timeout serverSpace serverName) acts result)
    (answered : Program.Answers answer world acts last) :
    last.cluster.services = world.cluster.services ∧
      ((result = .ok () ∧ EndpointsTo world.cluster.endpoints last.cluster.endpoints) ∨
        (∃ failure, result = .error failure) ∧ last.cluster.endpoints = world.cluster.endpoints ∧
          (Calm world → ∀ after, ¬EndpointsTo world.cluster.endpoints after)) := by
  obtain ⟨reply, rest, rfl, later⟩ := does_mirrorEndpoints.mp done
  obtain ⟨first, answeredFirst, calmFirst, sameFirst, served⟩ := World.answers_look id (fun _ => rfl) answered
  obtain ⟨server, missing⟩ := seen_of_reported s!"Failed to get endpoints {serverSpace}/{serverName}" served
  cases given : reported s!"Failed to get endpoints {serverSpace}/{serverName}" reply with
  | error failure =>
    simp only [given] at later
    obtain ⟨rfl, rfl⟩ := later
    obtain rfl := Program.answers_nil.mp answeredFirst
    refine ⟨by rw [sameFirst], .inr ⟨⟨failure, rfl⟩, by rw [sameFirst], ?_⟩⟩
    rintro calm after ⟨other, there, -⟩
    exact missing calm failure given other there
  | ok object =>
    simp only [given] at later
    have there := server object given
    obtain ⟨found, closing, rfl, rest⟩ := later
    obtain ⟨second, answeredSecond, calmSecond, sameSecond, looked⟩ :=
      World.answers_look calmFirst (fun _ => rfl) answeredFirst
    rw [sameFirst] at sameSecond looked
    cases saw : located s!"Failed to get endpoints {mirrorPath}" found with
    | error failure =>
      simp only [saw] at rest
      obtain ⟨rfl, rfl⟩ := rest
      obtain rfl := Program.answers_nil.mp answeredSecond
      refine ⟨by rw [sameSecond], .inr ⟨⟨failure, rfl⟩, by rw [sameSecond], ?_⟩⟩
      rintro calm after ⟨other, -, made⟩
      rw [put_of_unlocated looked saw calm] at made
      cases made
    | ok mine =>
      simp only [saw] at rest
      obtain ⟨written, rfl, rfl⟩ := rest
      have wrote : last.cluster.services = world.cluster.services ∧
          Wrote (Calm world) world.cluster.endpoints last.cluster.endpoints written
            (mine.elim (Cluster.add (isMirror ·.metadata) (repeating object (mine.getD newEndpoints))
              world.cluster.endpoints) fun _ => Cluster.change (isMirror ·.metadata)
              (fun _ => repeating object (mine.getD newEndpoints)) world.cluster.endpoints) := by
        cases mine <;>
          · obtain ⟨third, closed, -, called⟩ := World.answers_call calmSecond answeredSecond
            obtain rfl := Program.answers_nil.mp closed
            rw [sameSecond] at called
            exact wrote_endpoints called
      refine ⟨wrote.1, ?_⟩
      rcases put_of_write (seen_of_located looked saw) (show renewEndpoints object mine = some _ from rfl) wrote.2 with
        ⟨ended, made⟩ | ⟨failed, same, unmade⟩
      · exact .inl ⟨ended, object, there, made⟩
      · refine .inr ⟨failed, same, ?_⟩
        rintro calm after ⟨other, known, made⟩
        rw [there] at known
        cases known
        rw [unmade calm] at made
        cases made

theorem mirrorService_ends (done : Job.Does (mirrorService timeout eip ports) acts result)
    (answered : Program.Answers answer world acts last) :
    last.cluster.endpoints = world.cluster.endpoints ∧
      PutOrLeft (Calm world) (renewService eip ports) (isMirror ·.metadata) world.cluster.services last.cluster.services
        result := by
  obtain ⟨found, rest, rfl, later⟩ := does_mirrorService.mp done
  obtain ⟨first, answeredFirst, calmFirst, sameFirst, looked⟩ := World.answers_look id (fun _ => rfl) answered
  rcases saw : located s!"Failed to get service {mirrorPath}" found with failure | _ | existing
  · simp only [saw] at later
    obtain ⟨rfl, rfl⟩ := later
    obtain rfl := Program.answers_nil.mp answeredFirst
    exact ⟨by rw [sameFirst], .inr ⟨⟨failure, rfl⟩, by rw [sameFirst], put_of_unlocated looked saw⟩⟩
  · simp only [saw] at later
    obtain ⟨written, rfl, rfl⟩ := later
    obtain ⟨second, closed, -, called⟩ := World.answers_call calmFirst answeredFirst
    obtain rfl := Program.answers_nil.mp closed
    rw [sameFirst] at called
    obtain ⟨same, wrote⟩ := wrote_services called
    exact ⟨same, put_of_write (seen_of_located looked saw) rfl wrote⟩
  · simp only [saw] at later
    have there := (seen_of_located looked saw).1 existing rfl
    cases specified : existing.spec with
    | none =>
      simp only [specified] at later
      obtain ⟨rfl, rfl⟩ := later
      obtain rfl := Program.answers_nil.mp answeredFirst
      refine ⟨by rw [sameFirst], .inr ⟨⟨_, rfl⟩, by rw [sameFirst], ?_⟩⟩
      exact put_of_unrenewed looked saw (by simp [renewService, specified])
    | some spec =>
      simp only [specified] at later
      obtain ⟨written, rfl, rfl⟩ := later
      obtain ⟨second, closed, -, called⟩ := World.answers_call calmFirst answeredFirst
      obtain rfl := Program.answers_nil.mp closed
      rw [sameFirst] at called
      obtain ⟨same, wrote⟩ := wrote_services called
      -- The status that a replacement keeps is the one of the service that was read.
      rw [Cluster.change_const there] at wrote
      exact ⟨same, put_of_write (seen_of_located looked saw) (by simp [renewService, specified, updated]) wrote⟩

theorem publishStatus_ends (done : Job.Does (publishStatus timeout eip) acts result)
    (answered : Program.Answers answer world acts last) :
    last.cluster.endpoints = world.cluster.endpoints ∧
      PutOrLeft (Calm world) (Option.map (published eip)) (isMirror ·.metadata) world.cluster.services
        last.cluster.services result := by
  obtain ⟨found, rest, rfl, later⟩ := does_publishStatus.mp done
  obtain ⟨first, answeredFirst, calmFirst, sameFirst, looked⟩ := World.answers_look id (fun _ => rfl) answered
  obtain ⟨seen, missing⟩ := seen_of_reported s!"Failed to update status of service {mirrorName}" looked
  cases saw : reported s!"Failed to update status of service {mirrorName}" found with
  | error failure =>
    simp only [saw] at later
    obtain ⟨rfl, rfl⟩ := later
    obtain rfl := Program.answers_nil.mp answeredFirst
    refine ⟨by rw [sameFirst], .inr ⟨⟨failure, rfl⟩, by rw [sameFirst], fun calm => ?_⟩⟩
    rcases there : findFirst (isMirror ·.metadata) world.cluster.services with other | _ | service
    · simp [put, there]
    · simp [put, there]
    · exact absurd there (missing calm failure saw service)
  | ok service =>
    simp only [saw] at later
    obtain ⟨written, rfl, rfl⟩ := later
    obtain ⟨second, closed, -, called⟩ := World.answers_call calmFirst answeredFirst
    obtain rfl := Program.answers_nil.mp closed
    rw [sameFirst] at called
    obtain ⟨same, wrote⟩ := wrote_services called
    rw [Cluster.change_const (seen service saw)] at wrote
    have there := seen service saw
    exact ⟨same, put_of_write ⟨fun _ given => by cases given; exact there, fun _ => there⟩ rfl wrote⟩

end ElasticEndpoint.ServicePass
