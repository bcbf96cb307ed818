import ElasticEndpoint.Proofs.SessionSteps
import ElasticEndpoint.Proofs.ClientActs
import ElasticEndpoint.Http.Header
import ElasticEndpoint.Simulation.Host

/-!
The key stays with the client. It goes into the headers of requests to the cloud interface and nowhere else, so
surroundings that take no note of headers cannot tell which key a command line was carried out with. Only a key that
is refused as the value of a header is told to them: the report of that is passed on as it is.
-/

namespace ElasticEndpoint

namespace Program

variable {ρ σ χ : Type} {Reply : ρ → Type} {ε ε' α β : Type}
  {answer answer' : (request : ρ) → σ → Except χ (Reply request) × σ}

/-- Two programs that go alike, each in surroundings of its own. -/
def Alike (answer answer' : (request : ρ) → σ → Except χ (Reply request) × σ) (program program' : Program Reply ε α) :
    Prop :=
  ∀ state, program.tryRun answer state = program'.tryRun answer' state

theorem Alike.refl (program : Program Reply ε α) : Alike answer answer program program := fun _ => rfl

theorem Alike.andThen {program program' : Program Reply ε α} {next next' : Except ε α → Program Reply ε' β}
    (first : Alike answer answer' program program')
    (rest : ∀ result, Alike answer answer' (next result) (next' result)) :
    Alike answer answer' (program.andThen next) (program'.andThen next') := by
  intro state
  rw [tryRun_andThen, tryRun_andThen, first state]
  rcases program'.tryRun answer' state with ⟨reason | result, after⟩
  · rfl
  · exact rest result after

theorem Alike.bind {program program' : Program Reply ε α} {next next' : α → Program Reply ε β}
    (first : Alike answer answer' program program') (rest : ∀ value, Alike answer answer' (next value) (next' value)) :
    Alike answer answer' (program >>= next) (program' >>= next') := by
  apply Alike.andThen first
  intro result
  cases result with
  | ok value => exact rest value
  | error failure => exact fun _ => rfl

end Program

open Program (Alike)

namespace Http.Request

def unheaded (request : Request) : Request := { request with headers := [] }

/-- What comes of a request if the value of one of its headers is refused. -/
def refusal? (refuse : String → Option Outcome) (request : Request) : Option Outcome :=
  request.headers.findSome? fun header => refuse header.2

end Http.Request

/-- Surroundings of jobs that take no note of headers, once their values are not refused. -/
def unheaded {σ χ : Type} (refuse : String → Option Http.Outcome)
    (answer : (request : Request) → σ → Except χ request.Reply × σ) :
    (request : Request) → σ → Except χ request.Reply × σ
  | .http request, state =>
    match request.refusal? refuse with
    | some outcome => (.ok outcome, state)
    | none => answer (.http request.unheaded) state
  | request, state => answer request state

variable {σ χ : Type} {refuse : String → Option Http.Outcome}

namespace Job

variable {α β : Type} {answer : (request : Request) → σ → Except χ request.Reply × σ}

/-- Two jobs that go alike where no note is taken of headers. -/
abbrev LooksLike (refuse : String → Option Http.Outcome)
    (answer : (request : Request) → σ → Except χ request.Reply × σ) (job other : Job α) : Prop :=
  Alike (unheaded refuse answer) (unheaded refuse answer) job other

private theorem looksLike_http {request other : Http.Request} (same : request.unheaded = other.unheaded)
    (treated : request.refusal? refuse = other.refusal? refuse) :
    LooksLike refuse answer (http request) (http other) := by
  intro state
  have sent : ∀ request : Http.Request, Program.tryRun (unheaded refuse answer) (http request) state =
      ((unheaded refuse answer (.http request) state).1.map .ok, (unheaded refuse answer (.http request) state).2) :=
    fun request => Program.tryRun_request (unheaded refuse answer) (Request.http request) state
  rw [sent, sent]
  unfold unheaded
  dsimp only
  rw [treated, same]

end Job

namespace Metal.Client

variable {α : Type} {answer : (request : Request) → σ → Except χ request.Reply × σ} (client : Client) {key : String}

open Job (LooksLike)

def withKey (key : String) : Client := { client with key }

section

variable (treated : refuse client.key = refuse key)

include treated

private theorem looksLike_send {method : Http.Method} {path : String} {params : Option (List (String × Http.Parameter))}
    {json : Option (List (String × String))} :
    LooksLike refuse answer (client.send method path params json)
      ((client.withKey key).send method path params json) := by
  unfold send
  apply Alike.bind (.refl _)
  intro _
  refine Alike.bind (Job.looksLike_http rfl ?_) fun outcome => .refl _
  simp only [Http.Request.refusal?, requestOf, headers, withKey, List.findSome?_cons, treated]

private theorem looksLike_pagesFrom {project : String} {withAssignments : Bool} {left page : Nat} :
    LooksLike refuse answer (client.pagesFrom project withAssignments left page)
      ((client.withKey key).pagesFrom project withAssignments left page) := by
  induction left generalizing page with
  | zero => exact .refl _
  | succ left ih =>
    unfold pagesFrom
    apply Alike.bind (client.looksLike_send treated)
    intro sent
    apply Alike.bind (.refl _)
    intro found
    obtain ⟨reservations, isLast⟩ := found
    dsimp only
    split
    · exact .refl _
    · exact Alike.bind ih fun _ => .refl _

private theorem looksLike_perform (call : Call) :
    LooksLike refuse answer (client.perform call) ((client.withKey key).perform call) := by
  cases call with
  | list =>
    apply Alike.bind (client.looksLike_pagesFrom treated)
    exact fun _ => .refl _
  | assign =>
    apply Alike.bind (client.looksLike_send treated)
    exact fun _ => .refl _
  | unassign =>
    apply Alike.bind (client.looksLike_send treated)
    exact fun _ => .refl _

private theorem looksLike_serve (request : Request) :
    LooksLike refuse answer (client.serve request) ((client.withKey key).serve request) := by
  cases request with
  | metal call => exact Alike.andThen (client.looksLike_perform treated call) fun _ => .refl _
  | _ => exact .refl _

private theorem looksLike_connect (job : Job α) :
    LooksLike refuse answer (client.connect job) ((client.withKey key).connect job) := by
  induction job with
  | done result => exact .refl _
  | ask request next ih => exact (client.looksLike_serve treated request).bind ih

end

end Metal.Client

namespace CommandLine

/-- Surroundings of sessions that have a key, or none, and take no note of headers once their values are not refused. -/
def hearing (refuse : String → Option Http.Outcome) (answer : (request : Request) → σ → Except χ request.Reply × σ)
    (key : Option String) : (request : Request) → σ → Except χ request.Reply × σ
  | .environmentKey, state => (.ok key, state)
  | .job request, state => unheaded refuse (fun request => answer (.job request)) request state
  | request, state => answer request state

namespace Session

variable {α β : Type} {answer : (request : Request) → σ → Except χ request.Reply × σ} {key other : Option String}

/-- Two sessions that go alike, the one with a key and the other with another. -/
abbrev LooksLike (refuse : String → Option Http.Outcome)
    (answer : (request : Request) → σ → Except χ request.Reply × σ) (key other : Option String)
    (session session' : Session α) : Prop :=
  Alike (hearing refuse answer key) (hearing refuse answer other) session session'

/-- A session that asks for no key. -/
abbrev IsKeyless (session : Session α) : Prop := session.Uses (· ≠ .environmentKey)

theorem IsKeyless.looksLike {session : Session α} (keyless : session.IsKeyless) :
    LooksLike refuse answer key other session session := by
  intro state
  induction session generalizing state with
  | done result => rfl
  | ask request next ih =>
    have same : hearing refuse answer key request state = hearing refuse answer other request state := by
      cases request with
      | environmentKey => exact absurd rfl keyless.1
      | _ => rfl
    simp only [Program.tryRun, same]
    rcases hearing refuse answer other request state with ⟨reason | reply, after⟩
    · rfl
    · exact ih reply (keyless.2 reply) after

private theorem tryRun_job (job : Job α) (state : σ) :
    Program.tryRun (hearing refuse answer key) (Session.job job) state =
      match Program.tryRun (unheaded refuse fun request => answer (.job request)) job state with
      | (.ok (.ok value), after) => (.ok (.ok (.ok value)), after)
      | (.ok (.error (.problem problem)), after) => (.ok (.ok (.error problem)), after)
      | (.ok (.error (.crash crash)), after) => (.ok (.error (.crash crash)), after)
      | (.error reason, after) => (.error reason, after) := by
  induction job generalizing state with
  | done result => rcases result with (problem | crash) | value <;> rfl
  | ask request next ih =>
    have asked : Session.job (Program.ask request next) =
      Program.ask (Request.job request) fun reply => Session.job (next reply) := rfl
    have heard : hearing refuse answer key (.job request) state =
      unheaded refuse (fun request => answer (.job request)) request state := rfl
    rw [asked]
    simp only [Program.tryRun, heard]
    rcases unheaded refuse (fun request => answer (.job request)) request state with ⟨reason | reply, after⟩
    · rfl
    · exact ih reply after

private theorem looksLike_job {job job' : Job α}
    (alike : Job.LooksLike refuse (fun request => answer (.job request)) job job') :
    LooksLike refuse answer key other (Session.job job) (Session.job job') := by
  intro state
  rw [tryRun_job, tryRun_job, alike state]

end Session

open Session (LooksLike IsKeyless)

-- Texts are not to be shown here and now.
attribute [local irreducible] Session.print

private theorem keyless_ask (request : Request) (other : request ≠ .environmentKey) : (Session.ask request).IsKeyless :=
  ⟨other, fun _ => trivial⟩

private theorem keyless_put (shown : Except Console.MarkupFault String) : (Session.put shown).IsKeyless :=
  Session.uses_put (fun _ => nofun) shown

private theorem keyless_print (text : String) : (Session.print text).IsKeyless :=
  Session.uses_print (fun _ => nofun) text

private theorem keyless_printProblem (problem : Problem) : (Session.printProblem problem).IsKeyless :=
  Session.uses_printProblem (fun _ => nofun) problem

private theorem keyless_askFile {α : Type} {session : Session (Except Files.Fault α)}
    (keyless : session.IsKeyless) : (Session.askFile session).IsKeyless := by
  refine .bind keyless fun result => ?_
  cases result <;> trivial

private theorem keyless_readSettings (file : Files.Path) : (readSettings file).IsKeyless :=
  uses_readSettings (fun _ => nofun) nofun nofun

private theorem keyless_enterCluster : enterCluster.IsKeyless := uses_enterCluster (fun _ => nofun) nofun fun _ => nofun

private theorem keyless_printProblems (problems : List Problem) : (printProblems problems).IsKeyless := by
  induction problems with
  | nil => trivial
  | cons problem problems ih => exact .bind (keyless_printProblem problem) fun _ => ih

private theorem keyless_logProblems (period : Int) (problems : List Problem) :
    (logProblems period problems).IsKeyless := by
  induction problems with
  | nil => trivial
  | cons problem problems ih => exact .bind (keyless_ask _ nofun) fun _ => ih

private theorem keyless_writeSettings (wish : Init) : (writeSettings wish).IsKeyless := by
  refine .bind (keyless_askFile (keyless_ask _ nofun)) fun isThere => ?_
  split
  · exact .bind (keyless_print _) fun _ => True.intro
  · split
    · exact .bind (keyless_print _) fun _ => True.intro
    · exact .bind (keyless_askFile (keyless_ask _ nofun)) fun _ => keyless_print _

section

variable {answer : (request : Request) → σ → Except χ request.Reply × σ} {key other : Option String}

private theorem looksLike_valueOrExit {α : Type} {job job' : Job α}
    (alike : Job.LooksLike refuse (fun request => answer (.job request)) job job') :
    LooksLike refuse answer key other (valueOrExit job) (valueOrExit job') := by
  apply Alike.bind (Session.looksLike_job alike)
  intro result
  apply IsKeyless.looksLike
  cases result with
  | ok value => trivial
  | error problem => exact .bind (keyless_printProblem problem) fun _ => True.intro

section

variable {settings : Settings} {first second : String} (treated : refuse first = refuse second)

include treated

private theorem looksLike_sync (pageLimit : Nat) (mode : ServicePass.Mode) :
    LooksLike refuse answer key other (sync settings (clientFor settings first pageLimit) mode)
      (sync settings (clientFor settings second pageLimit) mode) :=
  looksLike_valueOrExit ((clientFor settings first pageLimit).looksLike_connect treated _)

private theorem looksLike_repeatSyncs (pageLimit : Nat) (period : Int) (left : Nat) :
    LooksLike refuse answer key other (repeatSyncs settings (clientFor settings first pageLimit) period left)
      (repeatSyncs settings (clientFor settings second pageLimit) period left) := by
  induction left with
  | zero => exact IsKeyless.looksLike trivial
  | succ left ih =>
    unfold repeatSyncs
    apply Alike.bind (looksLike_sync treated pageLimit .sync)
    intro report
    apply Alike.bind (keyless_logProblems period report.problems).looksLike
    intro _
    apply Alike.bind (keyless_ask (.sleep period) nofun).looksLike
    intro lasted
    split
    · exact ih
    · exact IsKeyless.looksLike (.bind (keyless_print _) fun _ => True.intro)

end

/-- A key, and neither an empty one nor one that is refused as the value of a header. -/
def IsFit (refuse : String → Option Http.Outcome) (key : Option String) : Prop :=
  ∃ text, key = some text ∧ text ≠ "" ∧ refuse text = none

section

variable (fit : IsFit refuse key) (good : IsFit refuse other)

include fit good

/-- With either of two fit keys in the surroundings there is a key, and headers with them are treated alike. -/
theorem resolvedKey_fit (settings : Settings) :
    ∃ first second, (settings.resolvedKey key).filter (!·.isEmpty) = some first ∧
      (settings.resolvedKey other).filter (!·.isEmpty) = some second ∧ refuse first = refuse second := by
  obtain ⟨first, rfl, full, taken⟩ := fit
  obtain ⟨second, rfl, ample, passed⟩ := good
  have kept : ∀ text : String, text ≠ "" → (some text).filter (!·.isEmpty) = some text := by
    intro text filled
    simp [Option.filter, filled]
  unfold Settings.resolvedKey
  cases settings.apiKey with
  | none => exact ⟨first, second, kept first full, kept second ample, taken.trans passed.symm⟩
  | some own =>
    dsimp only
    by_cases blank : own = ""
    · rw [if_pos (String.isEmpty_iff.mpr blank), if_pos (String.isEmpty_iff.mpr blank)]
      exact ⟨first, second, kept first full, kept second ample, taken.trans passed.symm⟩
    · rw [if_neg (mt String.isEmpty_iff.mp blank), if_neg (mt String.isEmpty_iff.mp blank)]
      exact ⟨own, own, kept own blank, kept own blank, rfl⟩

/-- With a fit key in the surroundings there is a key, and it is used alike whichever it is. -/
theorem looksLike_keyFor {α : Type} {settings : Settings} {next : Option String → Session α}
    (alike : ∀ first second, refuse first = refuse second →
      LooksLike refuse answer key other (next (some first)) (next (some second))) :
    LooksLike refuse answer key other (keyFor settings >>= next) (keyFor settings >>= next) := by
  intro state
  obtain ⟨first, second, found, given, treated⟩ := resolvedKey_fit fit good settings
  change Program.tryRun _ (next ((settings.resolvedKey key).filter _)) state =
    Program.tryRun _ (next ((settings.resolvedKey other).filter _)) state
  rw [found, given]
  exact alike first second treated state

private theorem looksLike_showStatus (pageLimit : Nat) (file : Files.Path) (port : Int) :
    LooksLike refuse answer key other (showStatus pageLimit file port) (showStatus pageLimit file port) := by
  apply Alike.bind (keyless_readSettings file).looksLike
  intro settings
  apply looksLike_keyFor fit good
  intro first second treated
  apply Alike.bind (looksLike_valueOrExit ((clientFor settings first pageLimit).looksLike_connect treated _))
  intro found
  cases found with
  | none => exact IsKeyless.looksLike (.bind (keyless_print _) fun _ => True.intro)
  | some reservation =>
    apply Alike.bind (looksLike_valueOrExit (.refl _))
    intro health
    apply IsKeyless.looksLike
    refine .bind (keyless_put _) fun _ => ?_
    split
    · exact .bind (keyless_print _) fun _ => True.intro
    · trivial

private theorem looksLike_prepare {α : Type} {next : Settings × Metal.Client → Session α} (pageLimit : Nat)
    (file : Files.Path)
    (alike : ∀ settings first second, refuse first = refuse second →
      LooksLike refuse answer key other (next (settings, clientFor settings first pageLimit))
        (next (settings, clientFor settings second pageLimit))) :
    LooksLike refuse answer key other (prepare pageLimit file >>= next) (prepare pageLimit file >>= next) := by
  unfold prepare
  simp only [bind_assoc]
  apply Alike.bind (keyless_readSettings file).looksLike
  intro settings
  apply Alike.bind keyless_enterCluster.looksLike
  intro _
  apply looksLike_keyFor fit good
  intro first second treated
  change LooksLike refuse answer key other
    (Session.ask (.startPasses _) >>= fun _ => next (settings, clientFor settings first pageLimit))
    (Session.ask (.startPasses _) >>= fun _ => next (settings, clientFor settings second pageLimit))
  apply Alike.bind (keyless_ask (.startPasses _) nofun).looksLike
  exact fun _ => alike settings first second treated

private theorem looksLike_reconcileOnce (pageLimit : Nat) (file : Files.Path) (mode : ServicePass.Mode) :
    LooksLike refuse answer key other (reconcileOnce pageLimit file mode) (reconcileOnce pageLimit file mode) := by
  apply looksLike_prepare fit good
  intro settings first second treated
  apply Alike.bind (looksLike_sync treated pageLimit mode)
  intro report
  apply IsKeyless.looksLike
  refine .bind (keyless_put _) fun _ => .bind (keyless_printProblems _) fun _ => ?_
  split <;> trivial

private theorem looksLike_keepReconciling (pageLimit passLimit : Nat) (file : Files.Path) (interval : Option Int) :
    LooksLike refuse answer key other (keepReconciling pageLimit passLimit file interval)
      (keepReconciling pageLimit passLimit file interval) := by
  apply Alike.bind (keyless_ask (.lowerConsole _) nofun).looksLike
  intro _
  apply looksLike_prepare fit good
  intro settings first second treated
  dsimp only
  have going : ∀ text period, LooksLike refuse answer key other
      (Session.print text >>= fun _ => repeatSyncs settings (clientFor settings first pageLimit) period passLimit)
      (Session.print text >>= fun _ => repeatSyncs settings (clientFor settings second pageLimit) period passLimit) :=
    fun text period =>
      (keyless_print text).looksLike.bind fun _ => looksLike_repeatSyncs treated pageLimit period passLimit
  split
  · exact Alike.bind (IsKeyless.looksLike trivial) fun _ => going _ _
  · exact going _ _

end

end

/-- The command of a command line that can be read to its end. -/
def commandOf (arguments : List String) : Option Command :=
  (Invocation.read arguments).bind fun invocation => Command.read invocation.name invocation.arguments

/-- Whether a command calls the cloud interface. -/
def Command.usesKey : Command → Bool
  | .version | .init _ => false
  | .status .. | .reconcile .. | .run .. => true

/-- A fit key is there if a command line calls for a key. -/
def IsEnough (refuse : String → Option Http.Outcome) (arguments : List String) (key : Option String) : Prop :=
  ∀ command, commandOf arguments = some command → command.usesKey = true → IsFit refuse key

/-- A request, and what comes of it unless the session is broken off there. -/
abbrev Attempt (χ : Type) := Exchange fun request : Request => Except χ request.Reply

/-- What can be seen of a request: nothing of the look for a key, nothing of headers, and nothing at all of a request
that is refused before it is sent. -/
def Attempt.seen (refuse : String → Option Http.Outcome) : Attempt χ → Option (Attempt χ)
  | ⟨.environmentKey, _⟩ => none
  | ⟨.job (.http request), reply⟩ =>
    if (request.refusal? refuse).isSome then none else some ⟨.job (.http request.unheaded), reply⟩
  | attempt => some attempt

section

variable {answer : (request : Request) → σ → Except χ request.Reply × σ} {key other : Option String}

private theorem looksLike_carryOut {arguments : List String} (enough : IsEnough refuse arguments key)
    (ample : IsEnough refuse arguments other) (limits : Limits) :
    LooksLike refuse answer key other (carryOut limits arguments) (carryOut limits arguments) := by
  unfold IsEnough commandOf at enough ample
  unfold carryOut
  cases found : Invocation.read arguments with
  | none => exact IsKeyless.looksLike trivial
  | some invocation =>
    rw [found] at enough ample
    dsimp only
    apply Alike.bind (keyless_askFile (keyless_ask (.setUpLogging _) nofun)).looksLike
    intro _
    apply Alike.bind (keyless_ask (.job (.log _)) nofun).looksLike
    intro _
    cases read : Command.read invocation.name invocation.arguments with
    | none => exact IsKeyless.looksLike trivial
    | some command =>
      have fit := enough command read
      have good := ample command read
      cases command with
      | version => exact IsKeyless.looksLike (keyless_ask (.print _) nofun)
      | init wish => exact (keyless_writeSettings wish).looksLike
      | status file port => exact looksLike_showStatus (fit rfl) (good rfl) limits.pages file port
      | reconcile file mode => exact looksLike_reconcileOnce (fit rfl) (good rfl) limits.pages file mode
      | run file interval =>
        exact looksLike_keepReconciling (fit rfl) (good rfl) limits.pages limits.passes file interval

/-- Surroundings that note besides what they are asked and what comes of it. -/
def noting (answer : (request : Request) → σ → Except χ request.Reply × σ) (request : Request)
    (noted : σ × List (Attempt χ)) : Except χ request.Reply × σ × List (Attempt χ) :=
  ((answer request noted.1).1, (answer request noted.1).2, noted.2 ++ [⟨request, (answer request noted.1).1⟩])

/-- Surroundings note what can be seen of a request. -/
theorem hearing_noting (request : Request) (state : σ) (notes : List (Attempt χ)) :
    hearing refuse (noting answer) key request (state, notes) =
      ((hearing refuse answer key request state).1, (hearing refuse answer key request state).2,
        notes ++ (Attempt.seen refuse ⟨request, (hearing refuse answer key request state).1⟩).toList) := by
  cases request with
  | environmentKey => exact congrArg (fun same => (Except.ok key, state, same)) (List.append_nil notes).symm
  | job request =>
    cases request with
    | http request =>
      unfold hearing unheaded Attempt.seen
      dsimp only
      cases request.refusal? refuse with
      | none => rfl
      | some outcome => exact congrArg (fun same => (Except.ok outcome, state, same)) (List.append_nil notes).symm
    | _ => rfl
  | _ => rfl

private theorem tryRun_noting {α : Type} (session : Session α) (state : σ) (notes : List (Attempt χ)) :
    Program.tryRun (hearing refuse (noting answer) key) session (state, notes) =
      ((Program.tryRun (hearing refuse answer key) session state).1,
        (Program.tryRun (hearing refuse answer key) session state).2,
        notes ++ (session.transcript (hearing refuse answer key) state).filterMap (Attempt.seen refuse)) := by
  induction session generalizing state notes with
  | done result => simp [Program.tryRun, Program.transcript]
  | ask request next ih =>
    simp only [Program.tryRun, Program.transcript, hearing_noting, List.filterMap_cons]
    rcases hearing refuse answer key request state with ⟨reason | reply, after⟩
    · cases Attempt.seen refuse ⟨request, .error reason⟩ <;> simp
    · cases Attempt.seen refuse ⟨request, .ok reply⟩ <;> simp [ih]

/-- Where either key is enough for a command line, it ends alike with both, leaves its surroundings alike, and is seen
to ask alike. -/
theorem key_kept_secret {arguments : List String} (enough : IsEnough refuse arguments key)
    (ample : IsEnough refuse arguments other) (limits : Limits) (state : σ) :
    Program.tryRun (hearing refuse answer key) (carryOut limits arguments) state =
        Program.tryRun (hearing refuse answer other) (carryOut limits arguments) state ∧
      ((carryOut limits arguments).transcript (hearing refuse answer key) state).filterMap (Attempt.seen refuse) =
        ((carryOut limits arguments).transcript (hearing refuse answer other) state).filterMap (Attempt.seen refuse) := by
  refine ⟨looksLike_carryOut enough ample limits state, ?_⟩
  have alike : LooksLike refuse (noting answer) key other (carryOut limits arguments) (carryOut limits arguments) :=
    looksLike_carryOut enough ample limits
  have noted := alike (state, [])
  rw [tryRun_noting, tryRun_noting] at noted
  exact congrArg (·.2.2) noted

end

/-- A host whose settings hold no key, and an interface that knows no project. -/
def keylessHost : Host where
  world := { script := .byTarget [("GET https://api.equinix.com/metal/v1/projects/p/ips", [.answered 404 []])] }
  disk := { files := [(["config"], "project_id: p\neip_tag: t\n")] }

def statusLine : List String := ["--verbose", "status", "--config", "config"]

def initLine : List String := ["init", "--project-id", "p", "--eip-tag", "t", "--config", "new"]

/-- What a host hears of a command line that is carried out with a key, or without. -/
def heardWith (arguments : List String) (key : Option String) : List (Attempt Ending) :=
  (carryOut ⟨40, 9⟩ arguments).transcript (hearing Http.headerRefusal? Host.attend key) keylessHost

/-- How a command line ends that is carried out with a key, or without, and the host that it leaves. -/
def endedWith (arguments : List String) (key : Option String) : Except Ending (Except Ending Unit) × Host :=
  (carryOut ⟨40, 9⟩ arguments).tryRun (hearing Http.headerRefusal? Host.attend key) keylessHost

/-- The keys in the requests that are heard. -/
def keysHeard (attempts : List (Attempt Ending)) : List (Option String) :=
  attempts.filterMap fun
    | ⟨.job (.http request), _⟩ => some (request.headers.lookup "X-Auth-Token")
    | _ => none

/-- A status with either of two keys sends that key, and is seen to do the same; new settings need no key. -/
theorem key_kept_secret_statusLine :
    (keysHeard (heardWith statusLine (some "one")) = [some "one"] ∧
      keysHeard (heardWith statusLine (some "two")) = [some "two"] ∧
      (heardWith statusLine (some "one")).filterMap (Attempt.seen Http.headerRefusal?) =
        (heardWith statusLine (some "two")).filterMap (Attempt.seen Http.headerRefusal?)) ∧
    endedWith initLine none = endedWith initLine (some " two") := by
  have enough : ∀ key, key ≠ "" → Http.isHeaderValue key = true →
      IsEnough Http.headerRefusal? statusLine (some key) :=
    fun key full sendable _ _ _ => ⟨key, rfl, full, Http.headerRefusal?_eq_none_iff.mpr sendable⟩
  have unneeded : ∀ key, IsEnough Http.headerRefusal? initLine key := by
    have found : (commandOf initLine).any Command.usesKey = false := by decide +kernel
    intro key command isCommand uses
    rw [isCommand, Option.any_some, uses] at found
    cases found
  refine ⟨⟨by decide +kernel, by decide +kernel, ?_⟩, ?_⟩
  · exact (key_kept_secret (enough "one" (by decide) (by decide +kernel)) (enough "two" (by decide) (by decide +kernel))
      ⟨40, 9⟩ keylessHost).2
  · exact (key_kept_secret (unneeded none) (unneeded (some " two")) ⟨40, 9⟩ keylessHost).1

/-- What is said of a key that begins with a blank. -/
def blankReport : String :=
  "Invalid leading whitespace, reserved character(s), or return character(s) in header value: ' one'"

/-- A status with a key that begins with a blank does not go as with another one: the key is refused in a header, and
told on the screen and in the records. -/
theorem key_told_blank :
    (endedWith statusLine (some " one")).2.screen =
        ["Error: Metal API request GET /projects/p/ips failed\n", "\n" ++ blankReport ++ "\n"] ∧
      (endedWith statusLine (some " one")).2.notices.getLast? = some
        (" - endpoint_manager.metal - ERROR - Metal API request GET /projects/p/ips failed: " ++ blankReport ++ "\n") ∧
      endedWith statusLine (some " one") ≠ endedWith statusLine (some "two") := by
  have screen : (endedWith statusLine (some " one")).2.screen =
      ["Error: Metal API request GET /projects/p/ips failed\n", "\n" ++ blankReport ++ "\n"] := by decide +kernel
  refine ⟨screen, by decide +kernel, ?_⟩
  have unsaid : (endedWith statusLine (some "two")).2.screen.getLast? ≠ some ("\n" ++ blankReport ++ "\n") := by
    decide +kernel
  intro same
  rw [← same, screen] at unsaid
  exact unsaid rfl

end CommandLine

end ElasticEndpoint
