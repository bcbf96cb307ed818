import ElasticEndpoint.Proofs.Announcements
import ElasticEndpoint.Proofs.ClientRequests
import ElasticEndpoint.Proofs.ReservationGate

/-!
Error records of passes. Of the problems that a pass ends in, those are never recorded as errors that it meets before
it has asked for anything. A failed listing is recorded by the client, except where its answer is not JSON.
-/

namespace ElasticEndpoint

open Act (Alarm)

/-- Whether a request lists reservations: a call for them, or the request for one of their pages. -/
def Request.listsReservations : Request → Bool
  | .metal (.list ..) => true
  | .http request => request.params.isSome
  | _ => false

/-- Whether a request neither records an error nor is a call. -/
def Request.isCalm (request : Request) : Bool := !request.isAlarm && !request.isCall

private theorem Request.unlisting_of_calm {request : Request} (calm : request.isCalm = true) :
    request.listsReservations = false := by
  cases request with
  | metal call | http request => cases calm
  | _ => rfl

abbrev Act.AllCalm (acts : List Act) : Prop := ∀ act ∈ acts, act.request.isCalm = true

section

variable {acts : List Act}

theorem Act.AllCalm.silent (calm : AllCalm acts) : ¬Alarm acts := by
  intro alarm
  obtain ⟨act, member, loud⟩ := alarm
  simpa [Request.isCalm, loud] using calm act member

theorem Act.AllCalm.calls (calm : AllCalm acts) : Act.calls acts = [] := by
  apply List.filter_eq_nil_iff.mpr
  intro act member called
  simpa [Request.isCalm, called] using calm act member

end

/-- How a pass goes that ends in a problem: it asks for nothing, its listing fails with the problem, or an error is
recorded after the listing, and no other listing is asked for. -/
inductive Trail (project : String) : List Act → Problem → Prop where
  | unasked {acts problem} (calm : Act.AllCalm acts) (early : problem = .noDesiredPort ∨ problem = .noTag) :
      Trail project acts problem
  | unlisted {before after problem} (calm : Act.AllCalm before) (last : Act.AllCalm after) :
      Trail project (before ++ .metal (.list project true) (.error (.problem problem)) :: after) problem
  | announced {before reservations rest problem} (calm : Act.AllCalm before) (alarm : Alarm rest)
      (later : ∀ act ∈ rest, act.request.listsReservations = false) :
      Trail project (before ++ .metal (.list project true) (.ok reservations) :: rest) problem

variable {project : String} {history : List Act} {problem : Problem}

theorem Trail.within {before after : List Act} (trail : Trail project history problem)
    (calm : Act.AllCalm before) (last : Act.AllCalm after) : Trail project (before ++ history ++ after) problem := by
  cases trail with
  | unasked quiet early =>
    apply Trail.unasked
    · exact List.forall_mem_append.mpr ⟨List.forall_mem_append.mpr ⟨calm, quiet⟩, last⟩
    · exact early
  | unlisted quiet closing =>
    rw [← List.append_assoc, List.append_assoc, List.cons_append]
    apply Trail.unlisted
    · exact List.forall_mem_append.mpr ⟨calm, quiet⟩
    · exact List.forall_mem_append.mpr ⟨closing, last⟩
  | announced quiet alarm later =>
    rw [← List.append_assoc, List.append_assoc, List.cons_append]
    apply Trail.announced
    · exact List.forall_mem_append.mpr ⟨calm, quiet⟩
    · exact Act.alarm_append.mpr (.inl alarm)
    · exact List.forall_mem_append.mpr ⟨later, fun act member => Request.unlisting_of_calm (last act member)⟩

/-- A pass that resolves its reservation first, and announces what goes wrong once it has it. -/
theorem Resolver.trail_bind {α : Type} {tags : List String} {next : Option Reservation → Job α} {value : α}
    (ended : (resolve project tags >>= next).Ends history (.error (.problem problem))) (blank : next none = pure value)
    (tells : ∀ reservation, (next (some reservation)).Tells false)
    (unlisting : ∀ reservation, (next (some reservation)).Uses (·.listsReservations = false)) :
    Trail project history problem := by
  unfold resolve at ended
  dsimp only at ended
  split at ended
  · obtain ⟨rfl, same⟩ := Program.ends_done.mp ended
    cases same
    exact .unasked (List.forall_mem_nil _) (.inr rfl)
  · rw [bind_assoc] at ended
    rcases Program.ends_bind.mp ended with ⟨failure, same, failed⟩ | ⟨reservations, first, rest, rfl, listed, later⟩
    · cases same
      obtain ⟨reply, _, rfl, done⟩ := Program.ends_ask.mp failed
      obtain ⟨rfl, rfl⟩ := Program.ends_done.mp done
      exact .unlisted (List.forall_mem_nil _) (List.forall_mem_nil _)
    · obtain ⟨reply, _, rfl, done⟩ := Program.ends_ask.mp listed
      obtain ⟨rfl, rfl⟩ := Program.ends_done.mp done
      split at later
      · obtain ⟨_, others, -, found⟩ := Program.ends_ask.mp later
        change Program.Ends (next none) others _ at found
        rw [blank] at found
        obtain ⟨-, impossible⟩ := Program.ends_done.mp found
        cases impossible
      next reservation _ =>
        obtain ⟨_, others, rfl, noted⟩ := Program.ends_ask.mp later
        change Program.Ends (next (some reservation)) others _ at noted
        apply Trail.announced (List.forall_mem_nil _)
        · apply Act.alarm_cons.mpr
          exact .inr ((tells reservation).ends noted |>.resolve_left Bool.false_ne_true)
        · exact List.forall_mem_cons.mpr ⟨rfl, (unlisting reservation).ends noted⟩

namespace Job

/-- A guarded body that ends in a problem is one that ends in it, and if it was entered the guard was left. -/
theorem ends_guarded {α : Type} {body : Bool → Job α}
    (ended : (guarded body).Ends history (.error (.problem problem))) :
    ∃ (entered : Bool) (within after : List Act), history = [⟨.enterGuard, entered⟩] ++ within ++ after ∧
      Act.AllCalm after ∧ (body entered).Ends within (.error (.problem problem)) := by
  obtain ⟨entered, rest, rfl, later⟩ := Program.ends_ask.mp ended
  change Program.Ends (Program.andThen (body entered) _) rest _ at later
  obtain ⟨within, middle, after, rfl, inside, closing⟩ := Program.ends_andThen.mp later
  refine ⟨entered, within, after, rfl, ?_⟩
  cases entered with
  | false =>
    obtain ⟨rfl, rfl⟩ := Program.ends_done.mp closing
    exact ⟨List.forall_mem_nil _, inside⟩
  | true =>
    obtain ⟨left, others, rfl, leaving⟩ := Program.ends_ask.mp closing
    cases left with
    | false =>
      obtain ⟨-, impossible⟩ := Program.ends_done.mp leaving
      cases impossible
    | true =>
      obtain ⟨rfl, rfl⟩ := Program.ends_done.mp leaving
      exact ⟨List.forall_mem_singleton.mpr rfl, inside⟩

end Job

private theorem Failover.unlisting_allows (limits : Limits) : Allows limits (·.listsReservations = false) :=
  ⟨fun _ => rfl, rfl, fun _ => rfl, fun _ => rfl, fun _ _ => rfl, fun _ => rfl⟩

private theorem NodePass.trail_inside {setup : Setup} {nodes : List (Option Cluster.Node)}
    (ended : (inside setup nodes).Ends history (.error (.problem problem))) : Trail setup.project history problem := by
  obtain ⟨ports, rest, rfl, later⟩ := Program.ends_ask.mp ended
  have calm : Act.AllCalm [⟨.ports, ports⟩] := List.forall_mem_singleton.mpr rfl
  change Program.Ends (if ports.desired.isUnknown then _ else _) rest _ at later
  split at later
  · obtain ⟨rfl, same⟩ := Program.ends_done.mp later
    cases same
    exact .unasked calm (.inl rfl)
  · have trail : Trail setup.project rest problem := by
      apply Resolver.trail_bind later rfl
      · intro reservation
        apply tells_refuseMultiple.bind
        intro _ heard
        apply tells_checkElastic.bind
        intro healthy heard
        split
        · trivial
        · exact tells_controlPlane.bind fun _ _ => tells_startFailover
      · intro reservation
        apply Program.Uses.bind (uses_refuseMultiple (fun _ => rfl) ..)
        intro _
        apply Program.Uses.bind (uses_checkElastic (fun _ => rfl) (fun _ => rfl) ..)
        intro healthy
        split
        · trivial
        · apply Program.Uses.bind (uses_controlPlane (fun _ => rfl) nodes)
          exact fun _ => uses_startFailover (Failover.unlisting_allows setup.limits) (fun _ => rfl) ..
    simpa using trail.within calm (List.forall_mem_nil _)

private theorem NodePass.trail_run {setup : Setup} {nodes : List (Option Cluster.Node)}
    (ended : (run setup nodes).Ends history (.error (.problem problem))) : Trail setup.project history problem := by
  obtain ⟨_, rest, rfl, later⟩ := Program.ends_ask.mp ended
  obtain ⟨entered, within, after, rfl, calm, inside⟩ := Job.ends_guarded later
  cases entered with
  | false =>
    obtain ⟨_, _, -, stated⟩ := Program.ends_ask.mp inside
    obtain ⟨_, _, -, noted⟩ := Program.ends_ask.mp stated
    obtain ⟨-, impossible⟩ := Program.ends_done.mp noted
    cases impossible
  | true =>
    exact (trail_inside inside).within (List.forall_mem_cons.mpr ⟨rfl, List.forall_mem_singleton.mpr rfl⟩) calm

private theorem ServicePass.trail_run {setup : Setup} {services : List (Option Cluster.Service)} {mode : Mode}
    (ended : (run setup services mode).Ends history (.error (.problem problem))) :
    Trail setup.project history problem := by
  apply Resolver.trail_bind ended rfl
  · intro reservation
    exact NodePass.tells_refuseMultiple.bind fun _ _ => tells_mirrorFirst
  · intro reservation
    apply Program.Uses.bind (NodePass.uses_refuseMultiple (fun _ => rfl) ..)
    intro _
    apply Program.Honours.uses
    apply honours_mirrorFirst
    · exact fun _ => rfl
    · exact fun _ => rfl
    · intros
      rfl

/-! What the client makes of it. -/

namespace Metal.Client

open Program (Renders)

variable {client : Client}

/-- An answer of success with a content that is not JSON. -/
inductive Garbled : Http.Outcome → Prop where
  | intro {status body fault} (accepted : isOk status = true) (full : (status == 204 || body.isEmpty) = false)
      (unread : Json.parse (Text.Utf8.decode body).toList = .error fault) (shallow : fault ≠ .tooDeep) :
      Garbled (.answered status body)

theorem garbled_iff {name : String} {status : Int} {body : List UInt8} (accepted : isOk status = true) :
    Garbled (.answered status body) ↔ ∃ problem, bodyOf name status body = .error (.problem problem) := by
  unfold bodyOf
  constructor
  · intro garbled
    cases garbled with
    | @intro _ _ fault _ full unread shallow =>
      rw [full, unread]
      cases fault with
      | tooDeep => exact (shallow rfl).elim
      | malformed | tooManyDigits => exact ⟨_, rfl⟩
  · intro failed
    obtain ⟨problem, read⟩ := failed
    split at read
    · cases read
    next full =>
      split at read
      · cases read
      · cases read
      next fault shallow unread => exact .intro accepted (Bool.eq_false_iff.mpr full) unread shallow

/-- A request records an error exactly if it ends in a problem that is not of a garbled answer. -/
theorem ends_send {method : Http.Method} {path : String} {params : Option (List (String × Http.Parameter))}
    {json : Option (List (String × String))} {result : Except Failure Value}
    (ended : (client.send method path params json).Ends history result) :
    ∃ outcome, Act.calls history = [.http (client.requestOf method path params json) outcome] ∧
      (Alarm history ↔ (∃ problem, result = .error (.problem problem)) ∧ ¬Garbled outcome) ∧
      (Garbled outcome → ∃ problem, result = .error (.problem problem)) := by
  unfold send at ended
  dsimp only at ended
  obtain ⟨_, rest, rfl, later⟩ := Program.ends_ask.mp ended
  obtain ⟨outcome, after, rfl, answered⟩ := Program.ends_ask.mp later
  refine ⟨outcome, ?_⟩
  cases outcome with
  | broken text =>
    obtain ⟨rfl, rfl⟩ := Program.ends_done.mp answered
    refine ⟨rfl, ?_, nofun⟩
    simp [Act.alarm_cons, Act.alarm_nil, Request.isAlarm]
  | failed kind text =>
    obtain ⟨_, others, rfl, noted⟩ := Program.ends_ask.mp answered
    obtain ⟨rfl, rfl⟩ := Program.ends_done.mp noted
    refine ⟨rfl, iff_of_true ?_ ⟨⟨_, rfl⟩, nofun⟩, nofun⟩
    simp [Act.alarm_cons, Request.isAlarm]
  | answered status body =>
    change Program.Ends (if isOk status then _ else _) after result at answered
    split at answered
    next accepted =>
      rw [valueOf_eq] at answered
      obtain ⟨rfl, rfl⟩ := Program.ends_done.mp answered
      refine ⟨rfl, ?_, (garbled_iff accepted).mp⟩
      rw [← garbled_iff accepted]
      simp [Act.alarm_cons, Act.alarm_nil, Request.isAlarm]
    next refused =>
      obtain ⟨_, others, rfl, noted⟩ := Program.ends_ask.mp answered
      obtain ⟨rfl, rfl⟩ := Program.ends_done.mp noted
      have read : ¬Garbled (.answered status body) := by
        intro garbled
        cases garbled with
        | intro accepted => exact refused accepted
      refine ⟨rfl, iff_of_true ?_ ⟨⟨_, rfl⟩, read⟩, fun garbled => (read garbled).elim⟩
      simp [Act.alarm_cons, Request.isAlarm]

/-- How a listing goes that does not crash: the last call is the request for a page, and a problem is recorded as an
error unless that page is garbled. -/
def Pages (client : Client) (project : String) {α : Type} (history : List Act) (result : Except Failure α) : Prop :=
  ∃ earlier page outcome, Act.calls history = earlier ++ [.http (client.pageRequest project true page) outcome] ∧
    (Alarm history ↔ (∃ problem, result = .error (.problem problem)) ∧ ¬Garbled outcome) ∧
    (Garbled outcome → ∃ problem, result = .error (.problem problem))

section

variable {project : String} {α β : Type} {result : Except Failure α}

theorem Pages.ok {value : α} (pages : client.Pages project history (.ok value)) (other : β) :
    client.Pages project history (.ok other : Except Failure β) := by
  obtain ⟨earlier, page, outcome, calls, alarm, told⟩ := pages
  have failing {γ : Type} {value : γ} : ¬∃ problem, (.ok value : Except Failure γ) = .error (.problem problem) := nofun
  exact ⟨earlier, page, outcome, calls, by simpa [failing] using alarm, fun garbled => (failing (told garbled)).elim⟩

/-- Requests without an error before a listing change nothing. -/
theorem Pages.behind {first : List Act} (pages : client.Pages project history result) (silent : ¬Alarm first) :
    client.Pages project (first ++ history) result := by
  obtain ⟨earlier, page, outcome, calls, alarm, told⟩ := pages
  refine ⟨Act.calls first ++ earlier, page, outcome, ?_, ?_, told⟩
  · rw [Act.calls_append, calls, List.append_assoc]
  · rw [Act.alarm_append, or_iff_right silent, alarm]

end

private theorem pages_send {project : String} {page : Nat} {result : Except Failure Value}
    (ended : (client.send .get s!"/projects/{project}/ips" (some (pageParams true page))).Ends history result) :
    client.Pages project history result := by
  obtain ⟨outcome, calls, alarm, told⟩ := ends_send ended
  exact ⟨[], page, outcome, calls, alarm, told⟩

private theorem pages_pagesFrom {project : String} {left page : Nat} {result : Except Failure (List Reservation)}
    (ended : (client.pagesFrom project true left page).Ends history result) :
    (∃ crash, result = .error (.crash crash)) ∨ client.Pages project history result := by
  induction left generalizing page history result with
  | zero =>
    obtain ⟨-, rfl⟩ := Program.ends_done.mp ended
    exact .inl ⟨_, rfl⟩
  | succ left ih =>
    unfold pagesFrom at ended
    rcases Program.ends_bind.mp ended with ⟨failure, rfl, failed⟩ | ⟨answer, first, rest, rfl, sent, later⟩
    · obtain ⟨earlier, page, outcome, calls, alarm, told⟩ := pages_send failed
      cases failure with
      | crash crash => exact .inl ⟨crash, rfl⟩
      | problem problem => exact .inr ⟨earlier, page, outcome, calls, by simpa using alarm, fun _ => ⟨problem, rfl⟩⟩
    · have pages := pages_send sent
      have silent : ¬Alarm first := by
        intro loud
        obtain ⟨-, -, outcome, -, alarm, -⟩ := pages
        obtain ⟨⟨problem, impossible⟩, -⟩ := alarm.mp loud
        cases impossible
      rcases read : pageOf page answer with crash | ⟨reservations, isLast⟩
      · rw [read] at later
        obtain ⟨-, rfl⟩ := Program.ends_done.mp later
        exact .inl ⟨crash, rfl⟩
      · rw [read] at later
        change Program.Ends (if isLast then _ else _) rest result at later
        split at later
        · obtain ⟨rfl, rfl⟩ := Program.ends_done.mp later
          rw [List.append_nil]
          exact .inr (pages.ok _)
        · rcases Program.ends_bind.mp later with ⟨failure, rfl, followed⟩ | ⟨others, rest, done, rfl, followed, last⟩
          · exact (ih followed).imp_right fun pages => pages.behind silent
          · obtain ⟨rfl, rfl⟩ := Program.ends_done.mp last
            rw [List.append_nil]
            rcases ih followed with ⟨crash, impossible⟩ | pages
            · cases impossible
            · exact .inr ((pages.ok _).behind silent)

/-- A listing that fails with a problem records it as an error unless its last page is garbled, and one that gives
reservations records no error. -/
theorem pages_list {project : String} {result : Except Failure (List Reservation)}
    (ended : (client.list project true).Ends history result) :
    (∃ crash, result = .error (.crash crash)) ∨ client.Pages project history result := by
  rcases Program.ends_bind.mp ended with ⟨failure, rfl, failed⟩ | ⟨reservations, first, rest, rfl, listed, later⟩
  · exact pages_pagesFrom failed
  · obtain ⟨_, others, rfl, noted⟩ := Program.ends_ask.mp later
    obtain ⟨rfl, rfl⟩ := Program.ends_done.mp noted
    rcases pages_pagesFrom listed with ⟨crash, impossible⟩ | ⟨earlier, page, outcome, calls, alarm, told⟩
    · cases impossible
    · refine .inr ⟨earlier, page, outcome, ?_, ?_, told⟩
      · rw [Act.calls_append, calls]
        exact List.append_nil _
      · rw [← alarm, Act.alarm_append]
        simp [Act.alarm_cons, Act.alarm_nil, Request.isAlarm]

/-- Whether the last of some calls is the request for a page that is garbled. -/
def LastGarbled (client : Client) (project : String) (calls : List Act) : Prop :=
  ∃ page outcome, calls.getLast? = some (.http (client.pageRequest project true page) outcome) ∧ Garbled outcome

theorem lastGarbled_page {project : String} {earlier : List Act} {page : Nat} {outcome : Http.Outcome} :
    client.LastGarbled project (earlier ++ [.http (client.pageRequest project true page) outcome]) ↔
      Garbled outcome := by
  unfold LastGarbled
  rw [List.getLast?_concat]
  constructor
  · intro last
    obtain ⟨other, same, last, garbled⟩ := last
    cases last
    exact garbled
  · exact fun garbled => ⟨page, outcome, rfl, garbled⟩

/-- What asks for no listing does not end with a page of one. -/
theorem not_lastGarbled {project : String} {earlier acts : List Act}
    (unlisting : ∀ act ∈ acts, act.request.listsReservations = false) (asked : Act.calls acts ≠ []) :
    ¬client.LastGarbled project (earlier ++ Act.calls acts) := by
  intro garbled
  obtain ⟨page, outcome, last, -⟩ := garbled
  rw [List.getLast?_append, List.getLast?_eq_some_getLast asked, Option.some_or] at last
  have member := (List.mem_filter.mp (List.getLast_mem asked)).1
  rw [Option.some.inj last] at member
  cases unlisting _ member

private theorem serve_succeeds (request : Request) (asked : List Act) (failure : Failure) :
    ¬Program.Ends (client.serve request) asked (.error failure) := by
  intro ended
  cases request with
  | metal call =>
    obtain ⟨_, _, _, -, -, impossible⟩ := Program.ends_andThen.mp ended
    obtain ⟨-, impossible⟩ := Program.ends_done.mp impossible
    cases impossible
  | _ =>
    obtain ⟨_, _, -, impossible⟩ := Program.ends_ask.mp ended
    obtain ⟨-, impossible⟩ := Program.ends_done.mp impossible
    cases impossible

theorem ends_serve_metal {call : Call} {reply : Except Failure call.Reply}
    (ended : Program.Ends (client.serve (.metal call)) history (.ok reply)) :
    (client.perform call).Ends history reply := by
  obtain ⟨_, _, _, rfl, performed, done⟩ := Program.ends_andThen.mp ended
  obtain ⟨rfl, same⟩ := Program.ends_done.mp done
  cases same
  rw [List.append_nil]
  exact performed

private theorem ends_serve_other {request : Request} {reply : request.Reply} (other : request.isMetal = false)
    (ended : Program.Ends (client.serve request) history (.ok reply)) : history = [⟨request, reply⟩] := by
  rw [serve_other other] at ended
  obtain ⟨_, _, rfl, done⟩ := Program.ends_ask.mp ended
  obtain ⟨rfl, same⟩ := Program.ends_done.mp done
  cases same
  rfl

theorem renders_calm {acts : List Act} (calm : Act.AllCalm acts) (rendered : Renders client.serve acts history) :
    history = acts := by
  induction rendered with
  | nil => rfl
  | @cons request reply _ _ _ served _ ih =>
    obtain ⟨first, others⟩ := List.forall_mem_cons.mp calm
    have other : request.isMetal = false := by
      cases request with
      | metal => cases first
      | _ => rfl
    rw [ends_serve_other other served, ih others]
    rfl

private theorem unlisting_perform {call : Call} (other : (Request.metal call).listsReservations = false) :
    (client.perform call).Uses (·.listsReservations = false) := by
  cases call with
  | list => cases other
  | assign => exact uses_assign (fun _ => rfl) rfl
  | unassign => exact uses_unassign (fun _ => rfl) rfl

/-- What asks for no listing asks for none through the client, and what it records it records through the client. -/
theorem renders_unlisting {acts : List Act} (unlisting : ∀ act ∈ acts, act.request.listsReservations = false)
    (rendered : Renders client.serve acts history) :
    (∀ act ∈ history, act.request.listsReservations = false) ∧ (Alarm acts → Alarm history) := by
  induction rendered with
  | nil => exact ⟨unlisting, id⟩
  | @cons request reply _ asked _ served _ ih =>
    obtain ⟨first, others⟩ := List.forall_mem_cons.mp unlisting
    obtain ⟨later, alarm⟩ := ih others
    rw [Act.alarm_cons, Act.alarm_append]
    cases metal : request.isMetal with
    | true =>
      cases request with
      | metal call =>
        have unasked := (unlisting_perform first).ends (ends_serve_metal served)
        exact ⟨List.forall_mem_append.mpr ⟨unasked, later⟩, Or.imp nofun alarm⟩
      | _ => cases metal
    | false =>
      obtain rfl := ends_serve_other metal served
      refine ⟨List.forall_mem_append.mpr ⟨List.forall_mem_singleton.mpr first, later⟩, Or.imp ?_ alarm⟩
      exact fun loud => ⟨_, List.mem_singleton.mpr rfl, loud⟩

end Metal.Client

open Metal (Client)
open Metal.Client (Garbled)

theorem Trail.alarm_iff (trail : Trail project history problem) :
    Alarm history ↔ ¬(Act.calls history = [] ∨
      Act.calls history = [.metal (.list project true) (.error (.problem problem))]) := by
  cases trail with
  | unasked calm => exact iff_of_false calm.silent fun asked => asked (.inl calm.calls)
  | @unlisted before after _ calm last =>
    apply iff_of_false
    · intro alarm
      rcases Act.alarm_append.mp alarm with loud | loud
      · exact calm.silent loud
      · rcases Act.alarm_cons.mp loud with loud | loud
        · cases loud
        · exact last.silent loud
    · intro asked
      apply asked
      rw [Act.calls_append, calm.calls, Act.calls_cons, last.calls]
      exact .inr rfl
  | @announced before reservations rest _ calm alarm =>
    apply iff_of_true
    · exact Act.alarm_append.mpr (.inr (Act.alarm_cons.mpr (.inr alarm)))
    · intro asked
      rw [Act.calls_append, calm.calls] at asked
      rcases asked with none | single
      · cases none
      · cases (List.cons.inj single).1

private theorem Trail.early (trail : Trail project history problem) (unasked : Act.calls history = []) :
    problem = .noDesiredPort ∨ problem = .noTag := by
  cases trail with
  | unasked _ early => exact early
  | unlisted | announced =>
    rw [Act.calls_append] at unasked
    cases (List.append_eq_nil_iff.mp unasked).2

theorem Trail.rendered {client : Client} {before : List Act} (trail : Trail project before problem)
    (rendered : Program.Renders client.serve before history) :
    Alarm history ↔ ¬(Act.calls history = [] ∨ client.LastGarbled project (Act.calls history)) := by
  cases trail with
  | unasked calm =>
    obtain rfl := Client.renders_calm calm rendered
    exact iff_of_false calm.silent fun asked => asked (.inl calm.calls)
  | unlisted calm last =>
    obtain ⟨opening, _, rfl, opened, followed⟩ := Program.renders_append rendered
    cases followed with
    | @cons _ _ _ asked closing listed closed =>
      obtain rfl := Client.renders_calm calm opened
      obtain rfl := Client.renders_calm last closed
      rcases Client.pages_list (Client.ends_serve_metal listed) with ⟨crash, impossible⟩ | pages
      · cases impossible
      · obtain ⟨earlier, page, outcome, calls, alarm, -⟩ := pages
        rw [Act.alarm_append, Act.alarm_append, or_iff_right calm.silent, or_iff_left last.silent, alarm,
          Act.calls_append, Act.calls_append, calm.calls, last.calls, calls, List.nil_append, List.append_nil,
          Client.lastGarbled_page, or_iff_right (List.append_ne_nil_of_right_ne_nil _ (List.cons_ne_nil _ _))]
        exact and_iff_right ⟨_, rfl⟩
  | announced calm alarm later =>
    obtain ⟨opening, _, rfl, opened, followed⟩ := Program.renders_append rendered
    cases followed with
    | @cons _ _ _ asked closing listed closed =>
      obtain rfl := Client.renders_calm calm opened
      obtain ⟨unlisting, loud⟩ := Client.renders_unlisting later closed
      rcases Client.pages_list (Client.ends_serve_metal listed) with ⟨crash, impossible⟩ | pages
      · cases impossible
      · obtain ⟨earlier, page, outcome, calls, -, told⟩ := pages
        apply iff_of_true
        · exact Act.alarm_append.mpr (.inr (Act.alarm_append.mpr (.inr (loud alarm))))
        · rw [Act.calls_append, Act.calls_append, calm.calls, List.nil_append, calls]
          intro asked
          rcases asked with none | garbled
          · simp at none
          · by_cases ended : Act.calls closing = []
            · rw [ended, List.append_nil, Client.lastGarbled_page] at garbled
              cases (told garbled).choose_spec
            · exact Client.not_lastGarbled unlisting ended garbled

/-- Which problems a pass records as errors: alone all but those it meets before it asks for anything and that of its
listing; through the client all but the former and that of a listing with a garbled page. -/
structure Recorded (project : String) {α : Type} (pass : Job α) : Prop where
  alone : ∀ {history problem}, pass.Ends history (.error (.problem problem)) →
    (Alarm history ↔ ¬(Act.calls history = [] ∨
      Act.calls history = [.metal (.list project true) (.error (.problem problem))]))
  early : ∀ {history problem}, pass.Ends history (.error (.problem problem)) → Act.calls history = [] →
    problem = .noDesiredPort ∨ problem = .noTag
  connected : ∀ (client : Client) {history problem}, (client.connect pass).Ends history (.error (.problem problem)) →
    (Alarm history ↔ ¬(Act.calls history = [] ∨ client.LastGarbled project (Act.calls history)))

private theorem recorded_of_trail {α : Type} {pass : Job α}
    (trail : ∀ {history problem}, pass.Ends history (.error (.problem problem)) → Trail project history problem) :
    Recorded project pass where
  alone ended := (trail ended).alarm_iff
  early ended := (trail ended).early
  connected client history problem ended := by
    obtain ⟨before, alone, rendered⟩ := Program.ends_interpret client.serve_succeeds ended
    exact (trail alone).rendered rendered

/-- A pass that ends in a problem has recorded an error, except for a port or a tag that is not there and for what
its listing fails with unrecorded. -/
theorem problems_recorded (setup : NodePass.Setup) (nodes : List (Option Cluster.Node)) (other : ServicePass.Setup)
    (services : List (Option Cluster.Service)) (mode : ServicePass.Mode) :
    Recorded setup.project (NodePass.run setup nodes) ∧
      Recorded other.project (ServicePass.run other services mode) := by
  constructor
  · exact recorded_of_trail NodePass.trail_run
  · exact recorded_of_trail ServicePass.trail_run

/-- With no port known, a node pass ends in a problem that it does not record. -/
theorem unrecorded_port :
    let pass := NodePass.run ⟨"proj-1", "cp-eip", .unhealthy, ⟨none, none⟩⟩ []
    (World.run {} pass).1 = .error (.problem .noDesiredPort) ∧ ¬Alarm (pass.history World.answer {}) := by
  refine ⟨rfl, Act.AllCalm.silent ?_⟩
  decide

end ElasticEndpoint
