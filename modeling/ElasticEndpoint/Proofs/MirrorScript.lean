import ElasticEndpoint.Proofs.ReservationGate

/-!
The script of a mirroring pass. Its calls to the cluster come in one order, each only after those before it went on,
and the first one that does not go on is the last, and tells how the pass ends.
-/

namespace ElasticEndpoint

def Request.isCluster : Request → Bool
  | .cluster _ _ => true
  | _ => false

/-- What the call of an act failed with. -/
def Act.failure? : Act → Option Cluster.CallFailure
  | ⟨.cluster _ _, .error failure⟩ => some failure
  | _ => none

/-- The call of an act was answered that there is no such object. -/
def Act.isMissed (act : Act) : Bool :=
  match act.failure? with
  | some (.fault fault) => fault.isNotFound
  | _ => false

namespace ServicePass

open Cluster (Service Endpoints ServicePort CallFailure)

/-- The calls that a pass makes, by their place in the script. -/
inductive Station where
  | readServed
  | readMine
  | writeMine
  | readMirror
  | writeMirror
  | readAgain
  | publish
  deriving DecidableEq

def script : List Station := [.readServed, .readMine, .writeMine, .readMirror, .writeMirror, .readAgain, .publish]

namespace Station

/-- The call that is made at a station. A write creates what the call before it missed, and replaces it otherwise. -/
inductive Asks : Station → Bool → Cluster.Call → Prop where
  | readServed {missed} : Asks .readServed missed (.readEndpoints serverName serverSpace)
  | readMine {missed} : Asks .readMine missed (.readEndpoints mirrorName mirrorSpace)
  | createMine {body} : Asks .writeMine true (.createEndpoints mirrorSpace body)
  | replaceMine {body} : Asks .writeMine false (.replaceEndpoints mirrorName mirrorSpace body)
  | readMirror {missed} : Asks .readMirror missed (.readService mirrorName mirrorSpace)
  | createMirror {body} : Asks .writeMirror true (.createService mirrorSpace body)
  | replaceMirror {body} : Asks .writeMirror false (.replaceService mirrorName mirrorSpace body)
  | readAgain {missed} : Asks .readAgain missed (.readService mirrorName mirrorSpace)
  | publish {missed body} : Asks .publish missed (.replaceServiceStatus mirrorName mirrorSpace body)

/-- Whether a pass goes on from a station where there is no such object. -/
def forgives : Station → Bool
  | .readMine | .readMirror => true
  | _ => false

/-- What a fault at a station is reported as. -/
def message (missed : Bool) : Station → String
  | .readServed => s!"Failed to get endpoints {serverSpace}/{serverName}"
  | .readMine => s!"Failed to get endpoints {mirrorPath}"
  | .writeMine => if missed then "Failed to create mirrored endpoints" else "Failed to update mirrored endpoints"
  | .readMirror => s!"Failed to get service {mirrorPath}"
  | .writeMirror =>
    if missed then s!"Failed to create service {mirrorName}" else s!"Failed to update service {mirrorName}"
  | .readAgain | .publish => s!"Failed to update status of service {mirrorName}"

/-- What a pass makes of a reply at a station: it goes on, and knows whether it missed the object, or it ends. -/
def settle {α : Type} (station : Station) (missed : Bool) : Except CallFailure α → Except Failure Bool
  | .ok _ => .ok false
  | .error (.fault fault) =>
    if station.forgives && fault.isNotFound then .ok true
    else .error (.problem (.cluster (station.message missed) fault.description))
  | .error (.crash crash) => .error (.crash crash)

end Station

/-- Calls that follow a script up to where one of them ends the pass. -/
inductive Follows {α : Type} (timeout : Option Duration) (value : α) :
    Bool → List Station → List Act → Except Failure α → Prop where
  | finished : Follows timeout value false [] [] (.ok value)
  | passed {missed station rest} {call : Cluster.Call} {reply : Except CallFailure call.Reply} {found acts result}
      (asks : station.Asks missed call) (settled : station.settle missed reply = .ok found)
      (later : Follows timeout value found rest acts result) :
      Follows timeout value missed (station :: rest) (.cluster call timeout reply :: acts) result
  | ended {missed station rest} {call : Cluster.Call} {reply : Except CallFailure call.Reply} {failure}
      (asks : station.Asks missed call) (settled : station.settle missed reply = .error failure) :
      Follows timeout value missed (station :: rest) [.cluster call timeout reply] (.error failure)

variable {α : Type} {timeout : Option Duration} {value : α} {missed : Bool} {stations rest : List Station}
  {acts more : List Act}

theorem Follows.append {result : Except Failure α} (first : Follows timeout () missed stations acts (.ok ()))
    (later : Follows timeout value false rest more result) :
    Follows timeout value missed (stations ++ rest) (acts ++ more) result := by
  generalize ended : (Except.ok () : Except Failure Unit) = middle at first
  induction first with
  | finished => exact later
  | passed asks settled _ ih => exact .passed asks settled (ih ended)
  | ended _ _ => cases ended

theorem Follows.stops {failure : Failure} (first : Follows timeout () missed stations acts (.error failure)) :
    Follows timeout value missed (stations ++ rest) acts (.error failure) := by
  generalize ended : (Except.error failure : Except Failure Unit) = middle at first
  induction first with
  | finished => cases ended
  | passed asks settled _ ih => exact .passed asks settled (ih ended)
  | ended asks settled =>
    cases ended
    exact .ended asks settled

private theorem settle_reported (station : Station) (missed : Bool) {reply : Except CallFailure α} {told : Except Failure α}
    (strict : station.forgives = false) (report : reported (station.message missed) reply = told) :
    station.settle missed reply = told.map fun _ => false := by
  subst report
  rcases reply with (fault | crash) | found
  · simp only [Station.settle, strict, Bool.false_and, Bool.false_eq_true, ↓reduceIte]
    rfl
  · rfl
  · rfl

private theorem settle_located (station : Station) (missed : Bool) {reply : Except CallFailure α} {told : Except Failure (Option α)}
    (mild : station.forgives = true) (report : located (station.message missed) reply = told) :
    station.settle missed reply = told.map (·.isNone) := by
  subst report
  rcases reply with (fault | crash) | found
  · by_cases missing : fault.isNotFound = true
    · simp only [Station.settle, located, mild, missing, Bool.and_true, ↓reduceIte]
      rfl
    · simp only [Station.settle, located, reported, missing, Bool.and_false, Bool.false_eq_true, ↓reduceIte]
      rfl
  · rfl
  · rfl

theorem Follows.last {station : Station} {call : Cluster.Call} {reply : Except CallFailure call.Reply}
    {result : Except Failure Unit} (asks : station.Asks missed call)
    (settled : station.settle missed reply = result.map fun _ => false) :
    Follows timeout () missed [station] [.cluster call timeout reply] result := by
  cases result with
  | ok value => exact .passed asks settled .finished
  | error failure => exact .ended asks settled

private theorem follows_mirrorEndpoints {result : Except Failure Unit}
    (done : Job.Does (mirrorEndpoints timeout serverSpace serverName) acts result) :
    Follows timeout () false [.readServed, .readMine, .writeMine] acts result := by
  obtain ⟨reply, rest, rfl, later⟩ := does_mirrorEndpoints.mp done
  split at later
  · rename_i failure refused
    obtain ⟨rfl, rfl⟩ := later
    exact .ended .readServed (settle_reported .readServed false rfl refused)
  · rename_i served told
    refine .passed .readServed (settle_reported .readServed false rfl told) ?_
    obtain ⟨found, more, rfl, later⟩ := later
    split at later
    · rename_i failure refused
      obtain ⟨rfl, rfl⟩ := later
      exact .ended .readMine (settle_located .readMine false rfl refused)
    · rename_i mine looked
      refine .passed .readMine (settle_located .readMine false rfl looked) ?_
      obtain ⟨written, rfl, rfl⟩ := later
      cases mine with
      | none => exact .last .createMine (settle_reported .writeMine true rfl rfl)
      | some mine => exact .last .replaceMine (settle_reported .writeMine false rfl rfl)

private theorem follows_mirrorService {eip : String} {ports : List (Option ServicePort)} {result : Except Failure Unit}
    (done : Job.Does (mirrorService timeout eip ports) acts result)
    (specified : ∀ (existing : Service) rest,
      acts = .cluster (.readService mirrorName mirrorSpace) timeout (.ok existing) :: rest → existing.spec.isSome) :
    Follows timeout () false [.readMirror, .writeMirror] acts result := by
  obtain ⟨found, rest, rfl, later⟩ := does_mirrorService.mp done
  split at later
  · rename_i failure refused
    obtain ⟨rfl, rfl⟩ := later
    exact .ended .readMirror (settle_located .readMirror false rfl refused)
  · rename_i looked
    refine .passed .readMirror (settle_located .readMirror false rfl looked) ?_
    obtain ⟨written, rfl, rfl⟩ := later
    exact .last .createMirror (settle_reported .writeMirror true rfl rfl)
  · rename_i existing looked
    refine .passed .readMirror (settle_located .readMirror false rfl looked) ?_
    obtain rfl := located_some.mp looked
    obtain ⟨spec, present⟩ := Option.isSome_iff_exists.mp (specified existing rest rfl)
    rw [present] at later
    obtain ⟨written, rfl, rfl⟩ := later
    exact .last .replaceMirror (settle_reported .writeMirror false rfl rfl)

private theorem follows_publishStatus {eip : String} {result : Except Failure Unit}
    (done : Job.Does (publishStatus timeout eip) acts result) :
    Follows timeout () false [.readAgain, .publish] acts result := by
  obtain ⟨found, rest, rfl, later⟩ := does_publishStatus.mp done
  split at later
  · rename_i failure refused
    obtain ⟨rfl, rfl⟩ := later
    exact .ended .readAgain (settle_reported .readAgain false rfl refused)
  · rename_i service told
    refine .passed .readAgain (settle_reported .readAgain false rfl told) ?_
    obtain ⟨written, rfl, rfl⟩ := later
    exact .last .publish (settle_reported .publish false rfl rfl)

section

variable {world last : World} (specified : ∀ service : Service, some service ∈ world.cluster.services →
  isMirror service.metadata = true → service.spec.isSome)

include specified

/-- A mirror that is read has a specification if all that are stored have one. -/
theorem specified_read {existing : Service}
    (answered : Program.Answers World.answer world
      (Act.cluster (.readService mirrorName mirrorSpace) timeout (.ok existing) :: acts) last) : existing.spec.isSome := by
  obtain ⟨_, -, -, -, ⟨-, _, impossible⟩ | replied⟩ := World.answers_look False.elim (fun _ => rfl) answered
  · cases impossible
  · have found := Cluster.require_eq_ok.mp replied.symm
    have named := Cluster.findFirst_holds found
    exact specified existing (Cluster.findFirst_mem found) named

private theorem follows_script {eip : String} {ports : List (Option ServicePort)} {result : Except Failure Unit}
    (done : Job.Does (do
      mirrorEndpoints timeout serverSpace serverName
      mirrorService timeout eip ports
      publishStatus timeout eip) acts result)
    (answered : Program.Answers World.answer world acts last) : Follows timeout () false script acts result := by
  change Follows timeout () false ([_, _, _] ++ ([_, _] ++ [_, _])) acts result
  rcases Job.does_bind.mp done with ⟨failure, rfl, part⟩ | ⟨⟨⟩, first, rest, rfl, part, later⟩
  · exact (follows_mirrorEndpoints part).stops
  obtain ⟨middle, told, answered⟩ := Program.answers_append.mp answered
  obtain ⟨services, -⟩ := mirrorEndpoints_ends part told
  rw [← services] at specified
  apply (follows_mirrorEndpoints part).append
  rcases Job.does_bind.mp later with ⟨failure, rfl, part⟩ | ⟨⟨⟩, second, final, rfl, part, later⟩
  · apply (follows_mirrorService part ?_).stops
    rintro existing rest rfl
    exact specified_read specified answered
  · apply (follows_mirrorService part ?_).append (follows_publishStatus later)
    rintro existing rest rfl
    exact specified_read specified answered

end

theorem Follows.clusters {result : Except Failure α} (follows : Follows timeout value missed stations acts result) :
    acts.filter (·.request.isCluster) = acts := by
  induction follows with
  | finished => rfl
  | passed _ _ _ ih => exact congrArg (List.cons _) ih
  | ended _ _ => rfl

theorem Follows.map {result : Except Failure Unit} (follows : Follows timeout () missed stations acts result)
    (value : α) : Follows timeout value missed stations acts (result.map fun _ => value) := by
  induction follows with
  | finished => exact .finished
  | passed asks settled _ ih => exact .passed asks settled ih
  | ended asks settled => exact .ended asks settled

/-- Whether the call before one was answered that there is no such object. -/
def missedAt (missed : Bool) (made : List Act) : Nat → Bool
  | 0 => missed
  | index + 1 => made[index]?.any Act.isMissed

/-- A pass goes on from a station after a call that succeeds, and from some after one that finds no such object. -/
def Station.GoesOn (station : Station) (act : Act) : Prop :=
  act.failure? = none ∨ station.forgives = true ∧ act.isMissed = true

/-- The calls of a pass against a script, and what the pass ends in. -/
structure Scripted {α : Type} (timeout : Option Duration) (value : α) (missed : Bool) (stations : List Station)
    (made : List Act) (result : Except Failure α) : Prop where
  asked : ∀ index act, made[index]? = some act → ∃ (station : Station) (call : Cluster.Call) (reply : _),
    stations[index]? = some station ∧ act = Act.cluster call timeout reply ∧
      station.Asks (missedAt missed made index) call
  reached : ∀ index < stations.length, index < made.length ↔ ∀ earlier < index, ∃ (station : Station) (act : Act),
    stations[earlier]? = some station ∧ made[earlier]? = some act ∧ station.GoesOn act
  through : result = .ok value ↔ made.length = stations.length ∧ ∀ (index : Nat) (station : Station) (act : Act),
    stations[index]? = some station → made[index]? = some act → station.GoesOn act
  refused : ∀ (index : Nat) (station : Station) (act : Act) fault, stations[index]? = some station → made[index]? = some act →
    act.failure? = some (.fault fault) → ¬station.GoesOn act → made.length = index + 1 ∧
      result = .error (.problem (.cluster (station.message (missedAt missed made index)) fault.description))
  crashed : ∀ index act crash, made[index]? = some act → act.failure? = some (.crash crash) →
    made.length = index + 1 ∧ result = .error (.crash crash)

section

variable {station : Station} {call : Cluster.Call} {reply : Except CallFailure call.Reply} (timeout)

private theorem goesOn_of_settled {found : Bool} (settled : station.settle missed reply = .ok found) :
    station.GoesOn (.cluster call timeout reply) ∧ (Act.cluster call timeout reply).isMissed = found := by
  rcases reply with (fault | crash) | value
  · simp only [Station.settle] at settled
    by_cases forgiven : (station.forgives && fault.isNotFound) = true
    · rw [if_pos forgiven] at settled
      cases settled
      rw [Bool.and_eq_true] at forgiven
      exact ⟨.inr forgiven, forgiven.2⟩
    · rw [if_neg forgiven] at settled
      cases settled
  · cases settled
  · cases settled
    exact ⟨.inl rfl, rfl⟩

private theorem failed_of_settled {failure : Failure} (settled : station.settle missed reply = .error failure) :
    ¬station.GoesOn (.cluster call timeout reply) ∧
      match (Act.cluster call timeout reply).failure? with
      | some (.fault fault) => failure = .problem (.cluster (station.message missed) fault.description)
      | some (.crash crash) => failure = .crash crash
      | none => False := by
  rcases reply with (fault | crash) | value
  · simp only [Station.settle] at settled
    by_cases forgiven : (station.forgives && fault.isNotFound) = true
    · rw [if_pos forgiven] at settled
      cases settled
    · rw [if_neg forgiven] at settled
      cases settled
      refine ⟨?_, rfl⟩
      rintro (impossible | ⟨forgives, absent⟩)
      · cases impossible
      · exact forgiven (Bool.and_eq_true_iff.mpr ⟨forgives, absent⟩)
  · cases settled
    refine ⟨?_, rfl⟩
    rintro (impossible | ⟨-, impossible⟩) <;> cases impossible
  · cases settled

end

theorem missedAt_cons (missed : Bool) (act : Act) (made : List Act) (index : Nat) :
    missedAt missed (act :: made) (index + 1) = missedAt act.isMissed made index := by
  cases index <;> rfl

private theorem Station.not_goesOn_of_crash {station : Station} {act : Act} {crash : Crash}
    (crashed : act.failure? = some (.crash crash)) : ¬station.GoesOn act := by
  unfold Station.GoesOn Act.isMissed
  rw [crashed]
  simp

theorem Scripted.passed {station : Station} {call : Cluster.Call} {reply : Except CallFailure call.Reply}
    {result : Except Failure α} (asks : station.Asks missed call) (goes : station.GoesOn (.cluster call timeout reply))
    (later : Scripted timeout value (Act.cluster call timeout reply).isMissed rest acts result) :
    Scripted timeout value missed (station :: rest) (.cluster call timeout reply :: acts) result := by
  constructor
  · intro index act given
    cases index with
    | zero =>
      cases given
      exact ⟨station, call, reply, rfl, rfl, asks⟩
    | succ index =>
      rw [missedAt_cons]
      exact later.asked index act given
  · intro index inside
    cases index with
    | zero => exact ⟨fun _ _ => nofun, fun _ => Nat.zero_lt_succ _⟩
    | succ index =>
      have reached := later.reached index (Nat.lt_of_succ_lt_succ inside)
      constructor
      · intro within earlier before
        cases earlier with
        | zero => exact ⟨station, _, rfl, rfl, goes⟩
        | succ earlier =>
          exact reached.mp (Nat.lt_of_succ_lt_succ within) earlier (Nat.lt_of_succ_lt_succ before)
      · exact fun all => Nat.succ_lt_succ (reached.mpr fun earlier before => all (earlier + 1) (Nat.succ_lt_succ before))
  · rw [later.through]
    constructor
    · rintro ⟨size, all⟩
      refine ⟨congrArg Nat.succ size, fun index other act there given => ?_⟩
      cases index with
      | zero =>
        cases there
        cases given
        exact goes
      | succ index => exact all index other act there given
    · rintro ⟨size, all⟩
      exact ⟨Nat.succ.inj size, fun index => all (index + 1)⟩
  · intro index other act fault there given refused stops
    cases index with
    | zero =>
      cases there
      cases given
      exact absurd goes stops
    | succ index =>
      rw [missedAt_cons]
      obtain ⟨size, ends⟩ := later.refused index other act fault there given refused stops
      exact ⟨congrArg Nat.succ size, ends⟩
  · intro index act crash given crashed
    cases index with
    | zero =>
      cases given
      exact absurd goes (Station.not_goesOn_of_crash crashed)
    | succ index =>
      obtain ⟨size, ends⟩ := later.crashed index act crash given crashed
      exact ⟨congrArg Nat.succ size, ends⟩

theorem Scripted.ended {station : Station} {call : Cluster.Call} {reply : Except CallFailure call.Reply}
    {failure : Failure} (asks : station.Asks missed call) (settled : station.settle missed reply = .error failure) :
    Scripted timeout value missed (station :: rest) [.cluster call timeout reply] (.error failure) := by
  obtain ⟨stops, failed⟩ := failed_of_settled timeout settled
  -- The only call is the first one.
  have first {index : Nat} {act : Act} (given : [Act.cluster call timeout reply][index]? = some act) :
      index = 0 ∧ act = .cluster call timeout reply := by
    cases index with
    | zero =>
      cases given
      exact ⟨rfl, rfl⟩
    | succ index => cases given
  constructor
  · intro index act given
    obtain ⟨rfl, rfl⟩ := first given
    exact ⟨station, call, reply, rfl, rfl, asks⟩
  · intro index inside
    cases index with
    | zero => exact ⟨fun _ _ => nofun, fun _ => Nat.zero_lt_one⟩
    | succ index =>
      constructor
      · intro within
        exact absurd (Nat.lt_of_succ_lt_succ within) (Nat.not_lt_zero index)
      · intro all
        obtain ⟨_, _, there, given, goes⟩ := all 0 (Nat.zero_lt_succ index)
        cases there
        cases given
        exact absurd goes stops
  · constructor
    · exact nofun
    · rintro ⟨-, all⟩
      exact absurd (all 0 station _ rfl rfl) stops
  · intro index other act fault there given refused _
    obtain ⟨rfl, rfl⟩ := first given
    cases there
    rw [refused] at failed
    exact ⟨rfl, congrArg Except.error failed⟩
  · intro index act crash given crashed
    obtain ⟨rfl, rfl⟩ := first given
    rw [crashed] at failed
    exact ⟨rfl, congrArg Except.error failed⟩

private theorem scripted_of_follows {result : Except Failure α} (follows : Follows timeout value missed stations acts result) :
    Scripted timeout value missed stations acts result := by
  induction follows with
  | finished =>
    constructor
    · intro index act given
      cases given
    · exact fun index inside => absurd inside (Nat.not_lt_zero index)
    · exact ⟨fun _ => ⟨rfl, fun index station act there => by cases there⟩, fun _ => rfl⟩
    · intro index station act fault there
      cases there
    · intro index act crash given
      cases given
  | passed asks settled _ ih =>
    obtain ⟨goes, rfl⟩ := goesOn_of_settled timeout settled
    exact .passed asks goes ih
  | ended asks settled => exact .ended asks settled

/-- Past the gate, the calls of a pass to the cluster follow the script, in every cluster and under every schedule of
faults, as long as a stored mirror has a specification. -/
theorem mirrors_by_script (world : World) (setup : Setup) (services : List (Option Service)) (mode : Mode)
    {reservation : Reservation} {first : ServicePort} {others : List (Option ServicePort)} {target : Net.Port}
    (found : Resolver.gate setup.tag world.listing = .ok reservation)
    (picked : chosen mode services = .ok (some (first, others))) (points : targetIn first = .ok target)
    (specified : ∀ service : Service, some service ∈ world.cluster.services → isMirror service.metadata = true →
      service.spec.isSome) :
    Scripted setup.timeout .mirrored false script
      ((world.acts (run setup services mode)).filter (·.request.isCluster)) (world.run (run setup services mode)).1 := by
  obtain ⟨last, answered, -⟩ := world.run_answers (run setup services mode)
  have done := world.does_acts (run setup services mode)
  generalize world.acts (run setup services mode) = acts at answered done ⊢
  rcases does_run_gate done answered with ⟨stop, why, -⟩ | ⟨_, reservations, rest, -, -, rfl, later⟩
  · rw [found] at why
    cases why
  have steps := does_mirrorFirst.mp later
  rw [picked] at steps
  obtain ⟨result, mirroring, ended⟩ := steps
  have steps := does_mirror.mp mirroring
  rw [points] at steps
  obtain ⟨before, calls, rfl, parts⟩ := steps
  obtain ⟨-, told⟩ := Program.answers_cons.mp answered
  obtain ⟨-, told⟩ := Program.answers_cons.mp told
  -- Neither the listing nor the observation of the port touches the cluster.
  have follows := follows_script (by
    rw [World.answer_cluster (by rintro _ _ ⟨⟩), World.answer_cluster (by rintro _ _ ⟨⟩)]
    exact specified) parts told
  have called : (Act.metal (.list setup.project true) (.ok reservations) :: ⟨.observePort target, before⟩ :: calls).filter
      (·.request.isCluster) = calls := follows.clusters
  rw [called, ended]
  exact scripted_of_follows (follows.map Outcome.mirrored)

theorem mirrors_by_script_interrupted :
    Resolver.gate "eip" interrupted.listing = .ok ⟨"reservation", "1.2.3.4", ["eip"], []⟩ ∧
      chosen .sync [some plainServer] = .ok (some (⟨.number 443, .int 6443, []⟩, [])) ∧
      targetIn ⟨.number 443, .int 6443, []⟩ = .ok (.number 6443) ∧
      (∀ service : Service, some service ∈ interrupted.cluster.services → isMirror service.metadata = true →
        service.spec.isSome) ∧
      Scripted none .mirrored false script ((interrupted.acts plainPass).filter (·.request.isCluster))
        (interrupted.run plainPass).1 := by
  have specified : ∀ service : Service, some service ∈ interrupted.cluster.services →
      isMirror service.metadata = true → service.spec.isSome := by
    intro service stored named
    cases List.mem_singleton.mp stored
    cases named
  exact ⟨rfl, rfl, rfl, specified,
    mirrors_by_script interrupted ⟨"project", "eip", none⟩ [some plainServer] .sync rfl rfl rfl specified⟩

end ServicePass

end ElasticEndpoint
