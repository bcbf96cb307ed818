import Mathlib.Data.List.Perm.Basic
import Mathlib.Order.MinMax
import ElasticEndpoint.Proofs.HostRuns

/-!
Logging over whole runs. Each time logging is set up its handlers are replaced. From then on the console shows what
passes the lowest of the thresholds that it was given, and the log file misses nothing of that. What libraries say below
a warning is heard nowhere, once logging has been set up to its end.
-/

namespace ElasticEndpoint

open Files (Disk Path)

/-! Files that are only written at their ends. -/

namespace Files.Disk

variable {before middle after : Disk} {place : Place} {text : String}

def Grows (before after : Disk) : Prop :=
  ∀ place text, before.textAt? place = some text → ∃ more, after.textAt? place = some (text ++ more)

def Holds (disk : Disk) (place : Place) (text : String) : Prop :=
  ∃ front back, disk.textAt? place = some (front ++ text ++ back)

private theorem grows_of_same (same : ∀ place, after.textAt? place = before.textAt? place) : before.Grows after := by
  intro place text found
  exact ⟨"", by rw [same, found, String.append_empty]⟩

theorem Grows.refl (disk : Disk) : disk.Grows disk := grows_of_same fun _ => rfl

theorem Grows.trans (first : before.Grows middle) (last : middle.Grows after) : before.Grows after := by
  intro place text found
  obtain ⟨more, kept⟩ := first place text found
  obtain ⟨further, grown⟩ := last place _ kept
  exact ⟨more ++ further, by rw [grown, String.append_assoc]⟩

theorem Grows.holds (grows : before.Grows after) (holds : before.Holds place text) : after.Holds place text := by
  obtain ⟨front, back, found⟩ := holds
  obtain ⟨more, grown⟩ := grows place _ found
  exact ⟨front, back ++ more, by rw [grown, String.append_assoc]⟩

private theorem textAt?_append_self (disk : Disk) (place : Place) (text : String) :
    (disk.append place text).textAt? place = some ((disk.textAt? place).getD "" ++ text) := textAt?_put_self ..

theorem grows_append (disk : Disk) (place : Place) (text : String) : disk.Grows (disk.append place text) := by
  intro other written found
  by_cases same : other = place
  · subst other
    exact ⟨text, by rw [textAt?_append_self, found]; rfl⟩
  · exact ⟨"", by rw [append, textAt?_put_of_ne _ _ same, found, String.append_empty]⟩

theorem holds_append (disk : Disk) (place : Place) (text : String) : (disk.append place text).Holds place text :=
  ⟨(disk.textAt? place).getD "", "", by rw [textAt?_append_self, String.append_empty]⟩

private theorem grows_makeFolders (disk : Disk) (path : Path) (count : Nat) : disk.Grows (disk.makeFolders path count).2 :=
  grows_of_same fun place => (changes_makeFolders (fun _ => False) disk path count).text place id

theorem grows_openAtEnd {disk : Disk} {path : Path} {opened : Place × Disk} (ended : disk.openAtEnd path = .ok opened) :
    disk.Grows opened.2 := by
  unfold openAtEnd at ended
  cases found : disk.filePlace path with
  | error fault =>
    rw [found] at ended
    cases ended
  | ok place =>
    rw [found] at ended
    cases ended
    exact grows_append disk place ""

end Files.Disk

namespace Logging

private theorem grows_openFile (disk : Disk) (path : Path) : disk.Grows (openFile disk path).2 := by
  have folders := disk.grows_makeFolders path.parent path.parent.names.length
  unfold openFile
  dsimp only
  split
  next fault middle made =>
    rw [made] at folders
    exact folders
  next middle made =>
    rw [made] at folders
    split
    next opened => exact folders.trans (Disk.grows_openAtEnd opened)
    next => exact folders

/-! What is asked for, and what it comes to. -/

/-- The threshold of loggers that is asked for. -/
def Setup.named (setup : Setup) : Except Level.NameFault Int :=
  Level.ofName (if setup.verbose then "DEBUG" else setup.level)

/-- The threshold of the console that is asked for. -/
def Setup.console (setup : Setup) : Int := if setup.verbose then Level.debug else setup.consoleLevel

/-- The place of the log file, if one is asked for and can be opened. -/
def Setup.opened? (setup : Setup) (disk : Disk) : Option Files.Place :=
  setup.file.bind fun path => (openFile disk path).1.toOption

/-- Why the log file cannot be opened, if one is asked for. -/
def Setup.fault? (setup : Setup) (disk : Disk) : Option Files.Fault :=
  setup.file.bind fun path =>
    match (openFile disk path).1 with
    | .error fault => some fault
    | .ok _ => none

/-- A handler for the console, and one for the log file if there is one. -/
def facing (console : Int) (file? : Option Files.Place) : List Handler :=
  ⟨.console, console⟩ :: file?.toList.map fun place => ⟨.file place, Level.debug⟩

/-- What can be done with logging. -/
inductive Step where
  | setUp (setup : Setup)
  | lowerConsole (level : Int)
  | entry (entry : Entry)

/-- Whether a step sets logging up. A name that gives no level is refused, and sets nothing up. -/
def Step.setsUp : Step → Bool
  | .setUp setup => setup.named.toBool
  | _ => false

def Step.lowered? : Step → Option Int
  | .lowerConsole level => some level
  | _ => none

/-- The levels that the console is lowered to. -/
def lowered (steps : List Step) : List Int := steps.filterMap Step.lowered?

variable {logging : Logging} {console : Int} {file? : Option Files.Place} {entry : Entry}

private theorem onConsole_named (logging : Logging) (setup : Setup) :
    logging.onConsole setup =
      setup.named.map fun level => { logging with threshold := level, handlers := [⟨.console, setup.console⟩] } := by
  unfold onConsole
  change setup.named >>= _ = _
  cases setup.named <;> rfl

private theorem lowerConsole_facing (faces : logging.handlers = facing console file?) (level : Int) :
    (logging.lowerConsole level).handlers = facing (min console level) file? := by
  cases file? <;> simp [lowerConsole, faces, facing]

instance : RightCommutative lowerConsole where
  right_comm logging first second := by
    simp only [lowerConsole, List.map_map, mk.injEq, List.map_inj_left, Function.comp_apply, true_and]
    intro handler _
    by_cases shown : handler.sink == .console
    · simp [shown, min_right_comm]
    · simp [shown]

private theorem handlers_lowered (faces : logging.handlers = facing console file?) (levels : List Int) :
    (levels.foldl lowerConsole logging).handlers = facing (levels.foldl min console) file? := by
  induction levels generalizing logging console with
  | nil => exact faces
  | cons level levels ih => exact ih (lowerConsole_facing faces level)

private theorem outputs_facing (faces : logging.handlers = facing console file?) (time : String)
    (admitted : logging.admits entry = true) (loud : Level.debug ≤ entry.level) :
    logging.outputs time entry = (if console ≤ entry.level then [(.console, line time entry)] else []) ++
      file?.toList.map fun place => (.file place, line time entry) := by
  cases file? <;> by_cases shown : console ≤ entry.level <;>
    simp [outputs, admitted, faces, facing, loud, shown]

private theorem outputs_refused (time : String) (refused : logging.admits entry = false) :
    logging.outputs time entry = [] := by
  simp [outputs, refused]

end Logging

namespace Host

variable {host after : Host} {setup : Logging.Setup} {console : Int} {place : Files.Place}
  {file? : Option Files.Place} {entry : Entry}

private theorem handle_refused (refused : host.logging.admits entry = false) : host.handle entry = host := by
  unfold handle
  rw [Logging.outputs_refused host.time refused]
  rfl

private theorem grows_writes (outputs : List (Logging.Sink × String)) (host : Host) :
    host.disk.Grows (outputs.foldl write host).disk := by
  induction outputs generalizing host with
  | nil => exact .refl _
  | cons output rest ih =>
    apply Disk.Grows.trans _ (ih _)
    obtain ⟨sink, text⟩ := output
    cases sink with
    | console => exact .refl _
    | file place => exact host.disk.grows_append place text

private theorem grows_handle (host : Host) (entry : Entry) : host.disk.Grows (host.handle entry).disk := grows_writes _ host

/-- What is seen of an entry that passes its logger, from the level on that the log file starts at. -/
theorem handle_facing (faces : host.logging.handlers = Logging.facing console (some place))
    (admitted : host.logging.admits entry = true) (loud : Level.debug ≤ entry.level) :
    (host.handle entry).notices =
        host.notices ++ (if console ≤ entry.level then [Logging.line host.time entry] else []) ∧
      (host.handle entry).disk = host.disk.append place (Logging.line host.time entry) := by
  unfold handle
  rw [Logging.outputs_facing faces host.time admitted loud]
  split <;> simp [write]

/-! Setting logging up. -/

/-- How setting logging up ends: it is refused for the name of its level, or broken off at a log file that cannot even be
named, or it comes to its end. -/
inductive SetsUp (host : Host) (setup : Logging.Setup) : Option Logging.SetupFault × Host → Prop where
  | refused {fault} (unknown : setup.named = .error fault) : SetsUp host setup (some (.level fault), host)
  | brokenOff {level fault after} (named : setup.named = .ok level) (unopened : setup.fault? host.disk = some fault)
      (unreported : fault.isReported = false)
      (kept : after.logging.libraryThreshold = host.logging.libraryThreshold)
      (grows : host.disk.Grows after.disk) : SetsUp host setup (some (.file fault), after)
  | done {level after} (named : setup.named = .ok level)
      (reported : ∀ fault, setup.fault? host.disk = some fault → fault.isReported = true)
      (ready : after.logging = ⟨level, Level.warning, Logging.facing setup.console (setup.opened? host.disk)⟩)
      (grows : host.disk.Grows after.disk) : SetsUp host setup (none, after)

private theorem setUpLogging_refused {fault : Level.NameFault} (unknown : setup.named = .error fault) (host : Host) :
    host.setUpLogging setup = (some (.level fault), host) := by
  have refused : host.logging.onConsole setup = .error fault := by
    rw [Logging.onConsole_named, unknown]
    rfl
  simp [setUpLogging, Logging.setUp, refused]

private theorem setsUp_silently {level : Int} (named : setup.named = .ok level) (unasked : setup.file = none) (host : Host) :
    host.SetsUp setup (host.setUpLogging setup) := by
  have ended : host.setUpLogging setup =
      (none, { host with logging := ⟨level, Level.warning, [⟨.console, setup.console⟩]⟩ }) := by
    simp [setUpLogging, Logging.setUp, Logging.onConsole_named, named, Except.map, unasked, Logging.withLibraries]
  rw [ended]
  apply SetsUp.done named
  · simp [Logging.Setup.fault?, unasked]
  · simp [Logging.Setup.opened?, unasked, Logging.facing]
  · exact .refl _

private theorem setsUp_opened {level : Int} {path : Path} {disk : Disk} (named : setup.named = .ok level)
    (asked : setup.file = some path) (opened : Logging.openFile host.disk path = (.ok place, disk)) :
    host.SetsUp setup (host.setUpLogging setup) := by
  have grows := Logging.grows_openFile host.disk path
  rw [opened] at grows
  have ended : host.setUpLogging setup =
      (none, { host with
        disk := disk
        logging := ⟨level, Level.warning, [⟨.console, setup.console⟩, ⟨.file place, Level.debug⟩]⟩ }) := by
    simp [setUpLogging, Logging.setUp, Logging.onConsole_named, named, Except.map, asked, opened, Logging.andFile,
      Logging.withLibraries]
  rw [ended]
  apply SetsUp.done named
  · simp [Logging.Setup.fault?, asked, opened]
  · simp [Logging.Setup.opened?, asked, opened, Logging.facing, Except.toOption]
  · exact grows

private theorem setsUp_unopened {level : Int} {path : Path} {fault : Files.Fault} {disk : Disk}
    (named : setup.named = .ok level) (asked : setup.file = some path)
    (unopened : Logging.openFile host.disk path = (.error fault, disk)) :
    host.SetsUp setup (host.setUpLogging setup) := by
  have grows := Logging.grows_openFile host.disk path
  rw [unopened] at grows
  have found : setup.fault? host.disk = some fault := by simp [Logging.Setup.fault?, asked, unopened]
  cases reported : fault.isReported with
  | false =>
    have ended : host.setUpLogging setup =
        (some (.file fault), { host with
          disk := disk
          logging := { host.logging with threshold := level, handlers := [⟨.console, setup.console⟩] } }) := by
      simp [setUpLogging, Logging.setUp, Logging.onConsole_named, named, Except.map, asked, unopened, reported]
    rw [ended]
    exact .brokenOff named found reported rfl grows
  | true =>
    -- The notice is an entry like others, so it goes by the handlers that are there by now.
    let ready : Host :=
      { host with disk := disk, logging := ⟨level, Level.warning, [⟨.console, setup.console⟩]⟩ }
    have ended : host.setUpLogging setup = (none, ready.handle (Logging.fileNotice fault)) := by
      simp [setUpLogging, Logging.setUp, Logging.onConsole_named, named, Except.map, asked, unopened, reported,
        Logging.withLibraries, ready]
    rw [ended]
    apply SetsUp.done named
    · intro other same
      rw [found] at same
      cases same
      exact reported
    · rw [logging_handle]
      simp [Logging.Setup.opened?, asked, unopened, Logging.facing, Except.toOption, ready]
    · exact grows.trans (ready.grows_handle _)

private theorem setsUp (host : Host) (setup : Logging.Setup) : host.SetsUp setup (host.setUpLogging setup) := by
  cases named : setup.named with
  | error fault =>
    rw [setUpLogging_refused named]
    exact .refused named
  | ok level =>
    cases asked : setup.file with
    | none => exact setsUp_silently named asked host
    | some path =>
      rcases outcome : Logging.openFile host.disk path with ⟨_ | _, disk⟩
      · exact setsUp_unopened named asked outcome
      · exact setsUp_opened named asked outcome

theorem SetsUp.grows {outcome : Option Logging.SetupFault × Host} (ends : host.SetsUp setup outcome) :
    host.disk.Grows outcome.2.disk := by
  cases ends with
  | refused => exact .refl _
  | brokenOff _ _ _ _ grows => exact grows
  | done _ _ _ grows => exact grows

theorem SetsUp.libraryThreshold {outcome : Option Logging.SetupFault × Host} (ends : host.SetsUp setup outcome)
    (muffled : host.logging.libraryThreshold = Level.warning) :
    outcome.2.logging.libraryThreshold = Level.warning := by
  cases ends with
  | refused => exact muffled
  | brokenOff _ _ _ kept => exact kept.trans muffled
  | done _ _ ready => rw [ready]

/-- Setting logging up comes to its end, unless there is no level of that name or the log file cannot even be named. -/
theorem SetsUp.done_iff {outcome : Option Logging.SetupFault × Host} (ends : host.SetsUp setup outcome) :
    outcome.1 = none ↔
      (∃ level, setup.named = .ok level) ∧ ∀ fault, setup.fault? host.disk = some fault → fault.isReported = true := by
  cases ends with
  | refused unknown => simp [unknown]
  | brokenOff _ unopened unreported => simp [unopened, unreported]
  | done named reported => simpa [named] using reported

private theorem done_of_ended (ended : host.setUpLogging setup = (none, after)) :
    ∃ level, setup.named = .ok level ∧
      after.logging = ⟨level, Level.warning, Logging.facing setup.console (setup.opened? host.disk)⟩ := by
  have ends := host.setsUp setup
  rw [ended] at ends
  cases ends with
  | done named _ ready => exact ⟨_, named, ready⟩

private theorem refused_of_ended {fault : Level.NameFault} (ended : host.setUpLogging setup = (some (.level fault), after)) :
    after = host := by
  have ends := host.setsUp setup
  rw [ended] at ends
  cases ends with
  | refused => rfl

/-! Runs. -/

def afterStep (host : Host) : Logging.Step → Host
  | .setUp setup => (host.setUpLogging setup).2
  | .lowerConsole level => { host with logging := host.logging.lowerConsole level }
  | .entry entry => host.handle entry

def afterSteps (host : Host) (steps : List Logging.Step) : Host := steps.foldl afterStep host

/-- How setting logging up ends each time that it is done, in order. -/
def setups (host : Host) : List Logging.Step → List (Option Logging.SetupFault)
  | [] => []
  | .setUp setup :: rest => (host.setUpLogging setup).1 :: (host.setUpLogging setup).2.setups rest
  | step :: rest => (host.afterStep step).setups rest

private theorem grows_afterStep (host : Host) (step : Logging.Step) : host.disk.Grows (host.afterStep step).disk := by
  cases step with
  | setUp setup => exact (host.setsUp setup).grows
  | lowerConsole level => exact .refl _
  | entry entry => exact host.grows_handle entry

private theorem grows_afterSteps (host : Host) (steps : List Logging.Step) : host.disk.Grows (host.afterSteps steps).disk := by
  induction steps generalizing host with
  | nil => exact .refl _
  | cons step steps ih => exact (host.grows_afterStep step).trans (ih _)

private theorem logging_afterStep (host : Host) {step : Logging.Step} (idle : step.setsUp = false) :
    (host.afterStep step).logging = step.lowered?.elim host.logging host.logging.lowerConsole := by
  cases step with
  | setUp setup =>
    cases named : setup.named with
    | error fault =>
      change (host.setUpLogging setup).2.logging = host.logging
      rw [setUpLogging_refused named]
    | ok level => simp [Logging.Step.setsUp, named, Except.toBool] at idle
  | lowerConsole level => rfl
  | entry entry => exact host.logging_handle entry

private theorem logging_afterSteps (host : Host) {steps : List Logging.Step} (idle : ∀ step ∈ steps, step.setsUp = false) :
    (host.afterSteps steps).logging = (Logging.lowered steps).foldl Logging.lowerConsole host.logging := by
  induction steps generalizing host with
  | nil => rfl
  | cons step steps ih =>
    obtain ⟨first, others⟩ := List.forall_mem_cons.mp idle
    have later := ih (host.afterStep step) others
    rw [logging_afterStep host first] at later
    refine later.trans ?_
    cases lowers : step.lowered? <;> simp [Logging.lowered, lowers]

private theorem handlers_afterSteps (faces : host.logging.handlers = Logging.facing console file?) {steps : List Logging.Step}
    (idle : ∀ step ∈ steps, step.setsUp = false) :
    (host.afterSteps steps).logging.handlers = Logging.facing ((Logging.lowered steps).foldl min console) file? := by
  rw [logging_afterSteps host idle]
  exact Logging.handlers_lowered faces _

/-! What libraries say. -/

private theorem handle_soft (soft : entry.level < Level.warning)
    (muffled : Level.warning ≤ host.logging.thresholdFor entry.logger) : host.handle entry = host := by
  apply handle_refused
  simp only [Logging.admits, Bool.and_eq_false_iff, decide_eq_false_iff_not]
  right
  omega

private theorem libraryThreshold_afterStep (muffled : host.logging.libraryThreshold = Level.warning) (step : Logging.Step) :
    (host.afterStep step).logging.libraryThreshold = Level.warning := by
  cases step with
  | setUp setup => exact (host.setsUp setup).libraryThreshold muffled
  | lowerConsole level => exact muffled
  | entry entry => exact (congrArg Logging.libraryThreshold (host.logging_handle entry)).trans muffled

private theorem libraryThreshold_afterSteps (muffled : host.logging.libraryThreshold = Level.warning)
    (steps : List Logging.Step) : (host.afterSteps steps).logging.libraryThreshold = Level.warning := by
  induction steps generalizing host with
  | nil => exact muffled
  | cons step steps ih => exact ih (libraryThreshold_afterStep muffled step)

private theorem libraryThreshold_done {steps : List Logging.Step} (done : none ∈ host.setups steps) :
    (host.afterSteps steps).logging.libraryThreshold = Level.warning := by
  induction steps generalizing host with
  | nil => cases done
  | cons step steps ih =>
    cases step with
    | lowerConsole => exact ih done
    | entry => exact ih done
    | setUp setup =>
      rcases List.mem_cons.mp done with here | later
      · obtain ⟨level, -, ready⟩ := done_of_ended (Prod.ext here.symm rfl : host.setUpLogging setup = (none, _))
        exact libraryThreshold_afterSteps (congrArg Logging.libraryThreshold ready) steps
      · exact ih later

/-- Names that give no level are refused, so the thresholds stay as they are. -/
theorem thresholds_refused {steps : List Logging.Step}
    (refused : ∀ outcome ∈ host.setups steps, ∃ fault, outcome = some (.level fault)) :
    (host.afterSteps steps).logging.threshold = host.logging.threshold ∧
      (host.afterSteps steps).logging.libraryThreshold = host.logging.libraryThreshold := by
  induction steps generalizing host with
  | nil => exact ⟨rfl, rfl⟩
  | cons step steps ih =>
    cases step with
    | lowerConsole => exact ih refused
    | entry entry =>
      have later := ih refused
      rw [show host.afterStep (.entry entry) = host.handle entry from rfl, logging_handle] at later
      exact later
    | setUp setup =>
      obtain ⟨⟨fault, here⟩, others⟩ := List.forall_mem_cons.mp refused
      have same : (host.setUpLogging setup).2 = host := refused_of_ended (Prod.ext here rfl)
      have later := ih others
      rw [same] at later
      change ((host.setUpLogging setup).2.afterSteps steps).logging.threshold = _ ∧
        ((host.setUpLogging setup).2.afterSteps steps).logging.libraryThreshold = _
      rw [same]
      exact later

/-- What libraries say below a warning is heard nowhere. -/
def Muffles (start : Host) (steps : List Logging.Step) : Prop :=
  ∀ entry, Logging.isLibrary entry.logger = true → entry.level < Level.warning →
    (start.afterSteps steps).handle entry = start.afterSteps steps

private theorem muffles_done {start : Host} {steps : List Logging.Step} (done : none ∈ start.setups steps) :
    start.Muffles steps := by
  intro entry library soft
  apply handle_soft soft
  have muffled := libraryThreshold_done done
  simp [Logging.thresholdFor, library, muffled, Level.warning]

private theorem muffles_refused {start : Host} {steps : List Logging.Step} (fresh : start.logging = {})
    (refused : ∀ outcome ∈ start.setups steps, ∃ fault, outcome = some (.level fault)) : start.Muffles steps := by
  intro entry library soft
  apply handle_soft soft
  obtain ⟨loggers, libraries⟩ := thresholds_refused refused
  rw [fresh] at loggers libraries
  simp [Logging.thresholdFor, loggers, libraries]

/-! Hosts between two settings up. -/

/-- What setting logging up on a host comes to, and what becomes of it by steps that do not set it up again: the console
goes by the lowest threshold of all, and the log file has what the console shows. -/
structure ObeysSetups (host : Host) : Prop where
  ends : ∀ setup, (host.setUpLogging setup).1 = none ↔
    (∃ level, setup.named = .ok level) ∧ ∀ fault, setup.fault? host.disk = some fault → fault.isReported = true
  handlers : ∀ setup after since, host.setUpLogging setup = (none, after) → (∀ step ∈ since, step.setsUp = false) →
    ∃ console, (setup.console :: Logging.lowered since).min? = some console ∧
      (after.afterSteps since).logging.handlers = Logging.facing console (setup.opened? host.disk)
  unraised : ∀ since earlier later file?, (∀ step ∈ since, step.setsUp = false) →
    host.logging.handlers = Logging.facing earlier file? →
      (host.afterSteps since).logging.handlers = Logging.facing later file? → later ≤ earlier
  unordered : ∀ since other, (∀ step ∈ since, step.setsUp = false) → (∀ step ∈ other, step.setsUp = false) →
    (Logging.lowered since).Perm (Logging.lowered other) →
      (host.afterSteps since).logging = (host.afterSteps other).logging
  filed : ∀ setup after since place, host.setUpLogging setup = (none, after) →
    (∀ step ∈ since, step.setsUp = false) → setup.opened? host.disk = some place →
      ∀ entry, Level.debug ≤ entry.level →
        ((after.afterSteps since).handle entry).notices ≠ (after.afterSteps since).notices →
          let line := Logging.line (after.afterSteps since).time entry
          ((after.afterSteps since).handle entry).notices = (after.afterSteps since).notices ++ [line] ∧
            ∀ rest, (((after.afterSteps since).handle entry).afterSteps rest).disk.Holds place line
  refused : ∀ setup fault, setup.named = .error fault → host.setUpLogging setup = (some (.level fault), host)

private theorem console_unraised {steps : List Logging.Step} (idle : ∀ step ∈ steps, step.setsUp = false) {later : Int}
    (faces : host.logging.handlers = Logging.facing console file?)
    (last : (host.afterSteps steps).logging.handlers = Logging.facing later file?) : later ≤ console := by
  rw [handlers_afterSteps faces idle] at last
  have least : (console :: Logging.lowered steps).min? = some later := by
    rw [List.min?_cons']
    exact congrArg (Option.map Logging.Handler.threshold) (congrArg List.head? last)
  exact (List.min?_eq_some_iff.mp least).2 console List.mem_cons_self

/-- What the console shows of the program is in the log file, and stays there whatever comes. -/
theorem filed_handle (faces : host.logging.handlers = Logging.facing console (some place))
    (loud : Level.debug ≤ entry.level) (shown : (host.handle entry).notices ≠ host.notices) :
    (host.handle entry).notices = host.notices ++ [Logging.line host.time entry] ∧
      ∀ rest, ((host.handle entry).afterSteps rest).disk.Holds place (Logging.line host.time entry) := by
  cases admitted : host.logging.admits entry with
  | false =>
    rw [handle_refused admitted] at shown
    exact absurd rfl shown
  | true =>
    obtain ⟨notices, disk⟩ := handle_facing faces admitted loud
    constructor
    · rw [notices] at shown ⊢
      split at shown
      next passes => rw [if_pos passes]
      next => exact absurd (List.append_nil _) shown
    · intro rest
      apply (grows_afterSteps _ rest).holds
      rw [disk]
      exact Disk.holds_append ..

private theorem obeysSetups (host : Host) : host.ObeysSetups := by
  have faces {setup : Logging.Setup} {after : Host} (ended : host.setUpLogging setup = (none, after)) :
      after.logging.handlers = Logging.facing setup.console (setup.opened? host.disk) := by
    obtain ⟨level, -, ready⟩ := done_of_ended ended
    exact congrArg Logging.handlers ready
  constructor
  · intro setup
    exact (host.setsUp setup).done_iff
  · intro setup after since ended idle
    exact ⟨_, List.min?_cons', handlers_afterSteps (faces ended) idle⟩
  · intro since earlier later file? idle first last
    exact console_unraised idle first last
  · intro since other idle alsoIdle same
    rw [logging_afterSteps host idle, logging_afterSteps host alsoIdle]
    exact same.foldl_eq _
  · intro setup after since place ended idle opened entry loud shown
    have before := handlers_afterSteps (faces ended) idle
    rw [opened] at before
    exact filed_handle before loud shown
  · intro setup fault unknown
    exact setUpLogging_refused unknown host

/-- What holds after any steps of logging. Libraries are muffled once logging was set up to its end; before that, unless
a setting up was broken off half way. -/
structure LogsFaithfully (start : Host) (steps : List Logging.Step) : Prop where
  obeys : (start.afterSteps steps).ObeysSetups
  muffles : none ∈ start.setups steps ∨
    start.logging = {} ∧ (∀ fault, some (.file fault) ∉ start.setups steps) → start.Muffles steps

theorem logsFaithfully_afterSteps (start : Host) (steps : List Logging.Step) : start.LogsFaithfully steps := by
  constructor
  · exact obeysSetups _
  · intro settled
    by_cases done : none ∈ start.setups steps
    · exact muffles_done done
    · obtain ⟨fresh, unbroken⟩ := settled.resolve_left done
      apply muffles_refused fresh
      intro outcome member
      match outcome with
      | none => exact absurd member done
      | some (.level fault) => exact ⟨fault, rfl⟩
      | some (.file fault) => exact absurd member (unbroken fault)

/-- What the program says is seen at the console and in the log file, what a library says in neither. -/
example :
    let last := ({} : Host).afterSteps [.setUp { file := some (.ofText "app.log") }, .lowerConsole 20,
      .entry ⟨"app", 20, "ready"⟩, .entry ⟨"urllib3.pool", 20, "sent"⟩]
    last.notices = [" - app - INFO - ready\n"] ∧ last.disk.textAt? ["app.log"] = some " - app - INFO - ready\n" := by
  decide +kernel

/-- A wish for logging whose file cannot even be named. -/
def unnameable : Logging.Setup := { verbose := true, file := some (.ofText "a\x00b") }

/-- What a library says below a warning. -/
def whisper : Entry := ⟨"kubernetes", Level.debug, "GET /api"⟩

/-- A setting up that is broken off first lets everything through, and then does not come to muffle the libraries. -/
theorem not_muffles_unnameable :
    (∃ fault, (({} : Host).setUpLogging unnameable).1 = some (.file fault)) ∧
      Logging.isLibrary whisper.logger = true ∧ whisper.level < Level.warning ∧
      (({} : Host).afterSteps [.setUp unnameable, .entry whisper]).notices = [Logging.line "" whisper] ∧
      ¬({} : Host).Muffles [.setUp unnameable] := by
  have heard : (({} : Host).afterSteps [.setUp unnameable, .entry whisper]).notices = [Logging.line "" whisper] := by
    decide +kernel
  have silent : (({} : Host).afterSteps [.setUp unnameable]).notices = [] := by decide +kernel
  refine ⟨⟨_, rfl⟩, by decide +kernel, by decide, heard, ?_⟩
  intro muffles
  have same := congrArg Host.notices (muffles whisper (by decide +kernel) (by decide))
  change (({} : Host).afterSteps [.setUp unnameable, .entry whisper]).notices = _ at same
  rw [heard, silent] at same
  cases same

end Host

end ElasticEndpoint
