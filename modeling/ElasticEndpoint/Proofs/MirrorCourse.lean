import ElasticEndpoint.Proofs.ServiceHealing

/-!
The course of a mirror that several passes work on. Whatever they do and in whatever order, the mirror goes
through the same few phases, and each call that a pass makes on its way is answered in each phase in one way. A
pass pursues its end whatever the others do meanwhile, as long as the phases only go up.
-/

namespace ElasticEndpoint.Cluster

variable {α : Type} {test : α → Bool} {before after : List (Option α)} {old : Option α} {new : α}

/-- Objects before and after one was written, with that object as it was and as it is. -/
structure Written (test : α → Bool) (before after : List (Option α)) (old : Option α) (new : α) : Prop where
  named : test new = true
  found : findFirst test before = .ok old
  kept : findFirst test after = .ok (some new)
  added : old = none → add test new before = .ok after
  changed : old ≠ none → change test (fun _ => new) before = .ok after

private theorem written_of_found (found : findFirst test before = .ok old) (named : test new = true) :
    ∃ after, Written test before after old new := by
  cases old with
  | none =>
    refine ⟨before ++ [some new], named, found, findFirst_added found named, fun _ => ?_, fun present => absurd rfl present⟩
    unfold add
    rw [found]
  | some object =>
    obtain ⟨after, changed, kept⟩ := change_of_found found fun _ => new
    exact ⟨after, named, found, kept named, nofun, fun _ => changed⟩

theorem Written.placed (written : Written test before after old new) :
    (old = none ∧ after = before ++ [some new]) ∨ change test (fun _ => new) before = .ok after := by
  cases present : old with
  | none =>
    have added := written.added present
    unfold add at added
    rw [written.found, present] at added
    cases added
    exact .inl ⟨rfl, rfl⟩
  | some object => exact .inr (written.changed (by rw [present]; nofun))

theorem Written.spares {other : α → Bool} {seen : α} (written : Written test before after old new)
    (apart : ∀ object, test object = true → other object = false)
    (found : findFirst other before = .ok (some seen)) : findFirst other after = .ok (some seen) := by
  rcases written.placed with ⟨-, rfl⟩ | changed
  · exact findFirst_append found _
  · exact findFirst_change apart (fun _ => apart new written.named) changed found

theorem Written.alone (written : Written test before after old new) (single : (those test before).length ≤ 1) :
    those test after = [new] := by
  rcases written.placed with ⟨absent, rfl⟩ | changed
  · have empty : those test before = [] :=
      List.head?_eq_none_iff.mp (head_those (written.found.trans (congrArg Except.ok absent)))
    rw [those_append, empty]
    simp [those, written.named]
  · rw [(those_change written.named changed).1,
      List.length_eq_zero_iff.mp (show (those test before).tail.length = 0 by rw [List.length_tail]; omega)]

theorem Written.again (written : Written test before after old new) {renew : α → α} (same : renew new = new) :
    change test renew after = .ok after :=
  change_id written.kept same

theorem Written.conflict (written : Written test before after old new) (other : α) :
    add test other after = .error conflict := by
  unfold add
  rw [written.kept]

end ElasticEndpoint.Cluster

namespace ElasticEndpoint.ServicePass

open Cluster (Service Endpoints ServicePort Store Written findFirst those conflict)

/-- How far the mirror has come. -/
inductive Phase where
  | untouched
  | repeated
  | renewed
  | shown
  deriving DecidableEq

namespace Phase

def rank : Phase → Nat
  | untouched => 0
  | repeated => 1
  | renewed => 2
  | shown => 3

instance : LE Phase := ⟨fun first second => first.rank ≤ second.rank⟩

instance : LT Phase := ⟨fun first second => first.rank < second.rank⟩

instance (first second : Phase) : Decidable (first ≤ second) := inferInstanceAs (Decidable (first.rank ≤ second.rank))

instance (first second : Phase) : Decidable (first < second) := inferInstanceAs (Decidable (first.rank < second.rank))

theorem le_refl (phase : Phase) : phase ≤ phase := Nat.le_refl _

theorem le_trans {first second third : Phase} (one : first ≤ second) (other : second ≤ third) : first ≤ third :=
  Nat.le_trans one other

theorem le_antisymm {first second : Phase} (one : first ≤ second) (other : second ≤ first) : first = second := by
  have same : first.rank = second.rank := Nat.le_antisymm one other
  cases first <;> cases second <;> first | rfl | cases same

theorem lt_of_le_of_ne {first second : Phase} (known : first ≤ second) (apart : second ≠ first) : first < second :=
  Nat.lt_of_not_le fun back => apart (le_antisymm back known)

/-- The later of two phases. -/
def upTo (phase least : Phase) : Phase := if phase.rank ≤ least.rank then least else phase

theorem le_upTo (phase least : Phase) : phase ≤ phase.upTo least := by
  unfold upTo
  split
  · assumption
  · exact le_refl phase

theorem least_le_upTo (phase least : Phase) : least ≤ phase.upTo least := by
  unfold upTo
  split
  · exact le_refl least
  · exact Nat.le_of_not_le ‹_›

theorem upTo_of_ne {phase least : Phase} (moved : phase.upTo least ≠ phase) : phase.upTo least = least := by
  unfold upTo at moved ⊢
  split
  · rfl
  · rw [if_neg ‹_›] at moved
    exact absurd rfl moved

end Phase

/-- What passes make of a cluster on which they agree about the plan and the desired port. -/
structure Course where
  start : Store
  plan : Plan
  desired : Net.Port
  served : Endpoints
  former : Option Endpoints
  mirrored : List (Option Endpoints)
  old : Option Service
  new : Service
  renewed : List (Option Service)
  shown : List (Option Service)
  server : findFirst (isServer ·.metadata) start.endpoints = .ok (some served)
  kept : findFirst (isServer ·.metadata) mirrored = .ok (some served)
  endpoints : Written (isMirror ·.metadata) start.endpoints mirrored former (repeating served (former.getD newEndpoints))
  renews : renewService plan.eip (some { plan.first with port := desired } :: plan.others) old = some new
  services : Written (isMirror ·.metadata) start.services renewed old new
  status : Written (isMirror ·.metadata) renewed shown (some new) (published plan.eip new)

namespace Course

variable (course : Course)

def ports : List (Option ServicePort) := some { course.plan.first with port := course.desired } :: course.plan.others

/-- The cluster in a phase. -/
def storeIn : Phase → Store
  | .untouched => course.start
  | .repeated => { course.start with endpoints := course.mirrored }
  | .renewed => { course.start with endpoints := course.mirrored, services := course.renewed }
  | .shown => { course.start with endpoints := course.mirrored, services := course.shown }

/-- The mirrored endpoints in a phase. -/
def mine : Phase → Option Endpoints
  | .untouched => course.former
  | _ => some (repeating course.served (course.former.getD newEndpoints))

/-- The mirrored service in a phase. -/
def mirror : Phase → Option Service
  | .untouched | .repeated => course.old
  | .renewed => some course.new
  | .shown => some (published course.plan.eip course.new)

private theorem found_mine (phase : Phase) :
    findFirst (isMirror ·.metadata) (course.storeIn phase).endpoints = .ok (course.mine phase) := by
  cases phase with
  | untouched => exact course.endpoints.found
  | _ => exact course.endpoints.kept

private theorem found_mirror (phase : Phase) :
    findFirst (isMirror ·.metadata) (course.storeIn phase).services = .ok (course.mirror phase) := by
  cases phase with
  | untouched | repeated => exact course.services.found
  | renewed => exact course.services.kept
  | shown => exact course.status.kept

theorem exist {start : Store} {plan : Plan} (desired : Net.Port) {served : Endpoints} {former : Option Endpoints}
    {old : Option Service} {new : Service} (server : findFirst (isServer ·.metadata) start.endpoints = .ok (some served))
    (endpoints : findFirst (isMirror ·.metadata) start.endpoints = .ok former)
    (services : findFirst (isMirror ·.metadata) start.services = .ok old)
    (renews : renewService plan.eip (some { plan.first with port := desired } :: plan.others) old = some new) :
    ∃ course : Course, course.start = start ∧ course.plan = plan ∧ course.desired = desired := by
  have named {α : Type} {test : α → Bool} {objects : List (Option α)} {found : Option α}
      (looked : findFirst test objects = .ok found) : found.all test = true := by
    cases found with
    | none => rfl
    | some object => simp [Cluster.findFirst_holds looked]
  have sameName := names_renewService _ _ old new (named services) renews
  obtain ⟨mirrored, repeated⟩ := Cluster.written_of_found endpoints
    (names_renewEndpoints served former _ (named endpoints) rfl)
  obtain ⟨renewed, written⟩ := Cluster.written_of_found services sameName
  obtain ⟨shown, status⟩ := Cluster.written_of_found written.kept (names_published plan.eip (some new) _ (by simp [sameName]) rfl)
  exact ⟨⟨start, plan, desired, served, former, mirrored, old, new, renewed, shown, server,
    repeated.spares (fun _ => isServer_of_isMirror) server, repeated, renews, written, status⟩, rfl, rfl, rfl⟩

theorem single (phase : Phase) (endpoints : (those (isMirror ·.metadata) course.start.endpoints).length ≤ 1)
    (services : (those (isMirror ·.metadata) course.start.services).length ≤ 1) :
    (those (isMirror ·.metadata) (course.storeIn phase).endpoints).length ≤ 1 ∧
      (those (isMirror ·.metadata) (course.storeIn phase).services).length ≤ 1 := by
  have mirrored := course.endpoints.alone endpoints
  have renewed := course.services.alone services
  have shown := course.status.alone (Nat.le_of_eq (congrArg List.length renewed))
  cases phase with
  | untouched => exact ⟨endpoints, services⟩
  | repeated => exact ⟨Nat.le_of_eq (congrArg List.length mirrored), services⟩
  | renewed => exact ⟨Nat.le_of_eq (congrArg List.length mirrored), Nat.le_of_eq (congrArg List.length renewed)⟩
  | shown => exact ⟨Nat.le_of_eq (congrArg List.length mirrored), Nat.le_of_eq (congrArg List.length shown)⟩

/-- What a look-up tells of an object that may be there. -/
def told {α : Type} (found : Option α) : Except Cluster.Fault α :=
  found.elim (.error (.answer (some 404) (some "Not Found"))) .ok

private theorem require_told {α : Type} {test : α → Bool} {objects : List (Option α)} {found : Option α}
    (looked : findFirst test objects = .ok found) : Cluster.require test objects = (told found).mapError .fault := by
  unfold Cluster.require
  rw [looked]
  cases found <;> rfl

theorem reads_server (phase : Phase) :
    Store.perform (.readEndpoints serverName serverSpace) (course.storeIn phase) =
      (.ok course.served, course.storeIn phase) := by
  have found : findFirst (isServer ·.metadata) (course.storeIn phase).endpoints = .ok (some course.served) := by
    cases phase with
    | untouched => exact course.server
    | _ => exact course.kept
  exact Prod.ext (Cluster.require_eq_ok.mpr found) rfl

theorem reads_mine (phase : Phase) :
    Store.perform (.readEndpoints mirrorName mirrorSpace) (course.storeIn phase) =
      ((told (course.mine phase)).mapError .fault, course.storeIn phase) :=
  Prod.ext (require_told (course.found_mine phase)) rfl

theorem reads_mirror (phase : Phase) :
    Store.perform (.readService mirrorName mirrorSpace) (course.storeIn phase) =
      ((told (course.mirror phase)).mapError .fault, course.storeIn phase) :=
  Prod.ext (require_told (course.found_mirror phase)) rfl

/-- Endpoints that were read in one phase are replaced in every later one by the same. -/
theorem replaces_mine {seen phase : Phase} (later : seen ≤ phase) {mine : Endpoints} (found : course.mine seen = some mine) :
    Store.perform (.replaceEndpoints mirrorName mirrorSpace (repeating course.served mine)) (course.storeIn phase) =
      (.ok (), course.storeIn (phase.upTo .repeated)) := by
  have same : repeating course.served mine = repeating course.served (course.former.getD newEndpoints) := by
    cases seen with
    | untouched =>
      rw [show course.former = some mine from found]
      rfl
    | _ =>
      cases found
      rfl
  have replaced : Cluster.change (isMirror ·.metadata) (fun _ => repeating course.served mine)
      (course.storeIn phase).endpoints = .ok (course.storeIn (phase.upTo .repeated)).endpoints := by
    rw [same]
    cases phase with
    | untouched =>
      apply course.endpoints.changed
      cases seen with
      | untouched =>
        rw [show course.former = some mine from found]
        exact Option.some_ne_none mine
      | _ => exact absurd later (by decide)
    | _ => exact course.endpoints.again rfl
  change (course.storeIn phase).withEndpoints (Cluster.change (isMirror ·.metadata) _ (course.storeIn phase).endpoints) = _
  rw [replaced]
  cases phase <;> rfl

theorem creates_mine {seen : Phase} (missed : course.mine seen = none) (phase : Phase) :
    Store.perform (.createEndpoints mirrorSpace (repeating course.served newEndpoints)) (course.storeIn phase) =
      if phase = .untouched then (.ok (), course.storeIn .repeated) else (.error conflict, course.storeIn phase) := by
  have absent : course.former = none := by
    cases seen with
    | untouched => exact missed
    | _ => cases missed
  change (course.storeIn phase).withEndpoints (Cluster.add (isMirror ·.metadata) _ (course.storeIn phase).endpoints) = _
  by_cases first : phase = .untouched
  · subst first
    have created := course.endpoints.added absent
    rw [absent] at created
    rw [if_pos rfl, show Cluster.add (isMirror ·.metadata) (repeating course.served newEndpoints)
      (course.storeIn .untouched).endpoints = .ok course.mirrored from created]
    rfl
  · have exists_already : Cluster.add (isMirror ·.metadata) (repeating course.served newEndpoints)
        (course.storeIn phase).endpoints = .error conflict := by
      cases phase with
      | untouched => exact absurd rfl first
      | _ => exact course.endpoints.conflict _
    rw [if_neg first, exists_already]
    rfl

theorem renews_mirror (phase : Phase) : renewService course.plan.eip course.ports (course.mirror phase) =
    some (if phase = .shown then published course.plan.eip course.new else course.new) := by
  have settled := renewService_settled course.renews
  cases phase with
  | untouched | repeated => exact course.renews
  | renewed => exact settled
  | shown => exact renewService_published settled

/-- A service that was read in one phase is replaced in every later one by the same, which keeps its status. -/
theorem replaces_mirror {seen phase : Phase} (later : seen ≤ phase) (begun : .repeated ≤ phase) {mine body : Service}
    (found : course.mirror seen = some mine) (renewed : renewService course.plan.eip course.ports (some mine) = some body) :
    Store.perform (.replaceService mirrorName mirrorSpace body) (course.storeIn phase) =
      (.ok (), course.storeIn (phase.upTo .renewed)) := by
  rw [← found, course.renews_mirror seen] at renewed
  obtain rfl := Option.some.inj renewed
  have replaced : Cluster.change (isMirror ·.metadata)
      (fun former => { (if seen = .shown then published course.plan.eip course.new else course.new) with
        status := former.status })
      (course.storeIn phase).services = .ok (course.storeIn (phase.upTo .renewed)).services := by
    cases phase with
    | untouched => exact absurd begun (by decide)
    | repeated =>
      have unshown : seen ≠ .shown := by
        rintro rfl
        exact absurd later (by decide)
      have there : course.old = some mine := by
        cases seen with
        | untouched | repeated => exact found
        | _ => exact absurd later (by decide)
      have looked : findFirst (isMirror ·.metadata) course.start.services = .ok (some mine) :=
        there ▸ course.services.found
      have status : course.new.status = mine.status := by
        have renews := course.renews
        rw [there] at renews
        obtain ⟨spec, -, same⟩ := Option.map_eq_some_iff.mp renews
        rw [← same]
        rfl
      rw [if_neg unshown]
      refine (Cluster.change_const looked _).trans ?_
      rw [← status]
      exact course.services.changed (by rw [there]; nofun)
    -- Whether the status was there yet when the service was read makes no difference: the store keeps its own.
    | renewed =>
      apply course.services.again
      split <;> rfl
    | shown =>
      apply course.status.again
      split <;> rfl
  change (course.storeIn phase).withServices (Cluster.change (isMirror ·.metadata) _ (course.storeIn phase).services) = _
  rw [replaced]
  cases phase with
  | untouched => exact absurd begun (by decide)
  | _ => rfl

theorem creates_mirror {seen phase : Phase} (missed : course.mirror seen = none) (begun : .repeated ≤ phase) :
    Store.perform (.createService mirrorSpace (newService course.plan.eip course.ports)) (course.storeIn phase) =
      if phase = .repeated then (.ok (), course.storeIn .renewed) else (.error conflict, course.storeIn phase) := by
  have absent : course.old = none := by
    cases seen with
    | untouched | repeated => exact missed
    | _ => cases missed
  have made : course.new = newService course.plan.eip course.ports := by
    have renews := course.renews
    rw [absent] at renews
    exact (Option.some.inj renews).symm
  change (course.storeIn phase).withServices (Cluster.add (isMirror ·.metadata) _ (course.storeIn phase).services) = _
  rw [← made]
  cases phase with
  | untouched => exact absurd begun (by decide)
  | repeated =>
    rw [if_pos rfl, show Cluster.add (isMirror ·.metadata) course.new (course.storeIn .repeated).services =
      .ok course.renewed from course.services.added absent]
    rfl
  | renewed =>
    rw [if_neg (by decide), show Cluster.add (isMirror ·.metadata) course.new (course.storeIn .renewed).services =
      .error conflict from course.services.conflict _]
    rfl
  | shown =>
    rw [if_neg (by decide), show Cluster.add (isMirror ·.metadata) course.new (course.storeIn .shown).services =
      .error conflict from course.status.conflict _]
    rfl

theorem shows_mirror {phase : Phase} (begun : .renewed ≤ phase) (mine : Service) :
    Store.perform (.replaceServiceStatus mirrorName mirrorSpace (published course.plan.eip mine)) (course.storeIn phase) =
      (.ok (), course.storeIn .shown) := by
  change (course.storeIn phase).withServices (Cluster.change (isMirror ·.metadata)
    (fun former => published course.plan.eip former) (course.storeIn phase).services) = _
  cases phase with
  | untouched | repeated => exact absurd begun (by decide)
  | renewed =>
    rw [show Cluster.change (isMirror ·.metadata) (published course.plan.eip) (course.storeIn .renewed).services =
      .ok course.shown from (Cluster.change_const course.status.found _).trans (course.status.changed nofun)]
    rfl
  | shown =>
    rw [show Cluster.change (isMirror ·.metadata) (published course.plan.eip) (course.storeIn .shown).services =
      .ok course.shown from course.status.again rfl]
    rfl

end Course

end ElasticEndpoint.ServicePass
