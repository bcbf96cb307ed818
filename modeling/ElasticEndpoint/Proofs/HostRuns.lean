import ElasticEndpoint.Proofs.DiskChanges
import ElasticEndpoint.Simulation.Host

/-!
Runs on a host. What a session does on a host follows from what its parts do there. Before a command begins, logging is
set up: no file but the log file is written for that, and folders are made only on the way to it.
-/

namespace ElasticEndpoint

open Files (Disk Path)
open CommandLine (Session Ending Invocation Command)

/-! The disk and the log file. -/

namespace Logging

variable {logging : Logging} {written : Files.Place → Prop}

/-- The place of the log file, if one is asked for. -/
def IsLog (disk : Disk) (file : Option Path) (place : Files.Place) : Prop :=
  ∃ path, file = some path ∧ place = placeOf disk path

/-- The places on the way to the folder of the log file, if one is asked for. -/
def IsOnWay (disk : Disk) (file : Option Path) (place : Files.Place) : Prop :=
  ∃ path, file = some path ∧ disk.Passes path.parent place

/-- Logging that writes to no files but those at some places. -/
def StaysAt (written : Files.Place → Prop) (logging : Logging) : Prop :=
  ∀ handler ∈ logging.handlers, ∀ place, handler.sink = .file place → written place

private theorem staysAt_outputs (stays : logging.StaysAt written) (time : String) (entry : Entry) :
    ∀ output ∈ logging.outputs time entry, ∀ place, output.1 = .file place → written place := by
  unfold outputs
  split
  · exact List.forall_mem_nil _
  · split
    · split
      · rintro output member place isFile
        rw [List.mem_singleton.mp member] at isFile
        cases isFile
      · exact List.forall_mem_nil _
    · rintro output member place isFile
      obtain ⟨handler, kept, rfl⟩ := List.mem_map.mp member
      exact stays handler (List.mem_filter.mp kept).1 place isFile

/-- Setting logging up at a level that has a name leaves handlers for the console and for the log file alone. -/
theorem setUp_changes (logging : Logging) {setup : Setup} {threshold : Int}
    (named : Level.ofName (if setup.verbose then "DEBUG" else setup.level) = .ok threshold) (disk : Disk) :
    Disk.Changes (IsOnWay disk setup.file) (IsLog disk setup.file) disk (logging.setUp setup disk).disk ∧
      (logging.setUp setup disk).logging.StaysAt (IsLog disk setup.file) := by
  have onConsole : ∃ console, logging.onConsole setup = .ok console ∧ console.StaysAt (IsLog disk setup.file) := by
    unfold onConsole
    rw [named]
    refine ⟨_, rfl, ?_⟩
    rintro handler member place isFile
    rw [List.mem_singleton.mp member] at isFile
    cases isFile
  obtain ⟨console, ok, stays⟩ := onConsole
  unfold setUp
  rw [ok]
  dsimp only
  split
  · exact ⟨.refl disk, stays⟩
  next path asked =>
    obtain ⟨changes, opened⟩ := changes_openFile disk path
    have weaker : Disk.Changes (IsOnWay disk setup.file) (IsLog disk setup.file) disk (openFile disk path).2 :=
      changes.imp (fun _ passed => ⟨path, asked, passed⟩) fun _ here => ⟨path, asked, here⟩
    split
    next place after outcome =>
      rw [outcome] at weaker opened
      refine ⟨weaker, ?_⟩
      rintro handler member other isFile
      rcases List.mem_append.mp member with earlier | new
      · exact stays handler earlier other isFile
      · rw [List.mem_singleton.mp new] at isFile
        cases isFile
        exact ⟨path, asked, opened place rfl⟩
    next fault after outcome =>
      rw [outcome] at weaker
      split <;> exact ⟨weaker, stays⟩

end Logging

/-! Sessions. -/

namespace Host

variable {α β : Type} {host after : Host}

theorem run_bind (host : Host) (session : Session α) (next : α → Session β) :
    host.run (session >>= next) =
      match host.run session with
      | (.ok value, after) => after.run (next value)
      | (.error ending, after) => (.error ending, after) := by
  change Prod.map (Except.bind · id) id ((Program.bind session next).tryRun attend host) =
    match Prod.map (Except.bind · id) id (session.tryRun attend host) with
    | (.ok value, after) => after.run (next value)
    | (.error ending, after) => (.error ending, after)
  rw [Program.tryRun_bind]
  rcases session.tryRun attend host with ⟨reason | ending | value, after⟩ <;> rfl

theorem run_passed {session : Session α} {next : α → Session β} {value : α}
    (ran : host.run session = (.ok value, after)) : host.run (session >>= next) = after.run (next value) := by
  rw [run_bind, ran]

theorem run_failed {session : Session α} {next : α → Session β} {ending : Ending}
    (ran : host.run session = (.error ending, after)) : host.run (session >>= next) = (.error ending, after) := by
  rw [run_bind, ran]

theorem run_askFile {session : Session (Except Files.Fault α)} {value : α}
    (ran : host.run session = (.ok (.ok value), after)) : host.run (Session.askFile session) = (.ok value, after) :=
  run_passed ran

theorem run_askFile_failed {session : Session (Except Files.Fault α)} {ending : Ending}
    (ran : host.run session = (.error ending, after)) : host.run (Session.askFile session) = (.error ending, after) :=
  run_failed ran

theorem run_askFile_fault {session : Session (Except Files.Fault α)} {fault : Files.Fault}
    (ran : host.run session = (.ok (.error fault), after)) :
    host.run (Session.askFile session) = (.error (.unreachable fault), after) := run_passed ran

/-- A request that is not broken off is answered. -/
theorem run_ask {request : CommandLine.Request} (whole : host.brokenOff? request = none) :
    host.run (Session.ask request) = (.ok (answer request host).1, (answer request host).2) := by
  have attended : attend request host = (.ok (answer request host).1, (answer request host).2) := by
    unfold attend
    rw [whole]
  unfold run Session.ask
  rw [Program.tryRun_request, attended]
  rfl

private theorem run_ask_broken {request : CommandLine.Request} {reason : String}
    (broken : host.brokenOff? request = some (reason, after)) :
    host.run (Session.ask request) = (.error (.crash (.system reason)), after) := by
  have attended : attend request host = (.error (.crash (.system reason)), after) := by
    unfold attend
    rw [broken]
  unfold run Session.ask
  rw [Program.tryRun_request, attended]
  rfl

/-- A text is printed, or the session ends because it has tags that cannot be shown or the terminal does not take it. -/
theorem run_print (host : Host) (text : String) :
    (∃ screen, Console.printed text = .ok screen ∧ host.outages.screen screen = none ∧
      host.run (Session.print text) = (.ok (), { host with screen := host.screen ++ [screen] })) ∨
    ∃ ending, host.run (Session.print text) = (.error ending, host) ∧ ending ≠ .exit 0 ∧
      ∀ screen, Console.printed text = .ok screen → host.outages.screen screen ≠ none := by
  unfold Session.print Session.put
  cases Console.printed text with
  | error fault => exact .inr ⟨.unshowable fault, rfl, nofun, nofun⟩
  | ok screen =>
    cases refused : host.outages.screen screen with
    | none => exact .inl ⟨screen, rfl, refused, run_ask (congrArg (Option.map _) refused)⟩
    | some reason =>
      refine .inr ⟨_, run_ask_broken (congrArg (Option.map _) refused), nofun, ?_⟩
      rintro _ ⟨⟩ taken
      rw [refused] at taken
      cases taken

theorem run_writeFile {path : Path} {place : Files.Place} (led : host.disk.filePlace path = .ok place)
    (whole : host.outages.files = none) (text : String) :
    host.run (Session.ask (.writeFile path text)) =
      (.ok (.ok ()), { host with disk := host.disk.rewrite place text }) := by
  have wrote : host.disk.write path text = .ok (host.disk.rewrite place text) := by
    unfold Disk.write
    rw [led]
    rfl
  rw [run_ask]
  · simp only [answer, wrote]
  · simp only [brokenOff?, whole]

theorem run_writeFile_broken {path : Path} {place : Files.Place} {count : Nat} {reason : String}
    (led : host.disk.filePlace path = .ok place) (outage : host.outages.files = some (count, reason)) (text : String) :
    host.run (Session.ask (.writeFile path text)) =
      (.error (.crash (.system reason)),
        { host with disk := host.disk.rewrite place (String.ofList (text.toList.take count)) }) := by
  apply run_ask_broken
  simp only [brokenOff?, outage, led]

theorem run_writeFile_fault {path : Path} {fault : Files.Fault} (led : host.disk.filePlace path = .error fault)
    (text : String) : host.run (Session.ask (.writeFile path text)) = (.ok (.error fault), host) := by
  have wrote : host.disk.write path text = .error fault := by
    unfold Disk.write
    rw [led]
    rfl
  rw [run_ask]
  · simp only [answer, wrote]
  · simp only [brokenOff?, led]
    cases host.outages.files <;> rfl

/-- An error that ends the session leaves the disk as it is. -/
theorem run_refusal (host : Host) (text : String) :
    ∃ ending after, host.run (Session.printError text >>= fun _ => (Session.exit 1 : Session α)) = (.error ending, after) ∧
      ending ≠ .exit 0 ∧ after.disk = host.disk := by
  rcases host.run_print s!"[red]Error:[/red] {text}" with ⟨screen, -, -, ran⟩ | ⟨ending, ran, failed, -⟩
  · refine ⟨.exit 1, _, run_passed ran, ?_, rfl⟩
    rintro ⟨⟩
  · exact ⟨ending, host, run_failed ran, failed, rfl⟩

private theorem changes_write {made written : Files.Place → Prop} {outputs : List (Logging.Sink × String)}
    (stays : ∀ output ∈ outputs, ∀ place, output.1 = .file place → written place) (host : Host) :
    Disk.Changes made written host.disk (outputs.foldl write host).disk := by
  induction outputs generalizing host with
  | nil => exact .refl _
  | cons output rest ih =>
    obtain ⟨first, others⟩ := List.forall_mem_cons.mp stays
    obtain ⟨sink, text⟩ := output
    cases sink with
    | console => exact ih others { host with notices := host.notices ++ [text] }
    | file place =>
      exact (Disk.changes_put host.disk _ (first place rfl)).trans
        (ih others { host with disk := host.disk.append place text })

/-- A host where nothing but the log file has been written, and folders have been made only on the way to it. -/
structure Begins (log : Option Path) (host ready : Host) : Prop where
  disk : Disk.Changes (Logging.IsOnWay host.disk log) (Logging.IsLog host.disk log) host.disk ready.disk
  logging : ready.logging.StaysAt (Logging.IsLog host.disk log)
  outages : ready.outages = host.outages

/-- An entry is written to files that logging writes to. -/
theorem Begins.handle {log : Option Path} {ready : Host} (begins : Begins log host ready) (entry : Entry) :
    Begins log host (ready.handle entry) := by
  have later : Disk.Changes (Logging.IsOnWay host.disk log) (Logging.IsLog host.disk log) ready.disk _ :=
    changes_write (Logging.staysAt_outputs begins.logging ready.time entry) ready
  refine ⟨begins.disk.trans later, ?_, (outages_handle ready entry).trans begins.outages⟩
  rw [logging_handle]
  exact begins.logging

private theorem begins_setUpLogging (host : Host) (setup : Logging.Setup) {threshold : Int}
    (named : Level.ofName (if setup.verbose then "DEBUG" else setup.level) = .ok threshold) :
    Begins setup.file host (host.setUpLogging setup).2 := by
  obtain ⟨changes, stays⟩ := host.logging.setUp_changes named host.disk
  unfold setUpLogging
  dsimp only
  cases (host.logging.setUp setup host.disk).notice with
  | none => exact ⟨changes, stays, rfl⟩
  | some entry =>
    have begins : Begins setup.file host { host with
      logging := (host.logging.setUp setup host.disk).logging, disk := (host.logging.setUp setup host.disk).disk } :=
      ⟨changes, stays, rfl⟩
    exact begins.handle entry

private theorem run_setUpLogging (host : Host) (setup : Logging.Setup) :
    ∃ reply, host.run (Session.ask (.setUpLogging setup)) = (.ok reply, (host.setUpLogging setup).2) := by
  rw [run_ask rfl]
  rcases outcome : host.setUpLogging setup with ⟨_ | (fault | fault), after⟩
  all_goals
    simp only [answer, outcome]
    exact ⟨_, rfl⟩

private theorem run_log (host : Host) (severity : Severity) (message : String) :
    ∃ world, host.run (Session.log severity message) =
      (.ok (), { host with world := world }.handle (Record.entry ⟨.commandLine, severity, message⟩)) := ⟨_, rfl⟩

/-- A command begins on a host where logging has been set up; or the session has ended there. -/
theorem carryOut_begins {arguments : List String} {invocation : Invocation} {command : Command}
    (read : Invocation.read arguments = some invocation)
    (asked : Command.read invocation.name invocation.arguments = some command) (host : Host) (pageLimit : Nat) :
    ∃ ready, Begins invocation.shared.logFile host ready ∧
      (host.carryOut pageLimit arguments = ready.run (command.carryOut ⟨pageLimit, max 1 host.patience⟩) ∨
        ∃ fault, host.carryOut pageLimit arguments = (.error (.unreachable fault), ready)) := by
  let setup : Logging.Setup := { file := invocation.shared.logFile, verbose := invocation.shared.verbose }
  have named : ∃ threshold, Level.ofName (if invocation.shared.verbose then "DEBUG" else "INFO") = .ok threshold := by
    have legible : ∀ verbose : Bool, (Level.ofName (if verbose then "DEBUG" else "INFO")).toBool = true := by
      decide +kernel
    cases named : Level.ofName (if invocation.shared.verbose then "DEBUG" else "INFO") with
    | error fault =>
      have failed := legible invocation.shared.verbose
      rw [named] at failed
      cases failed
    | ok threshold => exact ⟨threshold, rfl⟩
  obtain ⟨threshold, named⟩ := named
  have begins : Begins setup.file host (host.setUpLogging setup).2 := host.begins_setUpLogging setup named
  have whole : CommandLine.carryOut ⟨pageLimit, max 1 host.patience⟩ arguments =
      Session.askFile (Session.ask (.setUpLogging setup)) >>= fun _ =>
        Session.log .debug "Logging initialized" >>= fun _ => command.carryOut ⟨pageLimit, max 1 host.patience⟩ := by
    unfold CommandLine.carryOut
    rw [read]
    dsimp only
    rw [asked]
  obtain ⟨reply, ran⟩ := host.run_setUpLogging setup
  unfold carryOut
  rw [whole]
  cases reply with
  | error fault =>
    exact ⟨_, begins, .inr ⟨fault, run_failed (run_askFile_fault ran)⟩⟩
  | ok =>
    obtain ⟨world, logged⟩ := (host.setUpLogging setup).2.run_log .debug "Logging initialized"
    have later : Begins setup.file host { (host.setUpLogging setup).2 with world := world } :=
      ⟨begins.disk, begins.logging, begins.outages⟩
    rw [run_passed (run_askFile ran), run_passed logged]
    exact ⟨_, later.handle _, .inl rfl⟩

end Host

end ElasticEndpoint
