import ElasticEndpoint.Proofs.HostRuns
import ElasticEndpoint.Proofs.PrintedProblems
import ElasticEndpoint.Proofs.SettingsFile

/-!
New settings. A command line that asks for a settings file either puts exactly the settings asked for on the disk, or
leaves the file alone, whatever is on the disk. Only the log file could get in its way: it must not be the settings
file, and no folder may be made for it where the settings file is to be.
-/

namespace ElasticEndpoint

open Files (Disk Path)
open CommandLine (Session Init Ending)
open Settings (requiredField_ok_iff optionalField_ok_iff bind_ok_iff checkProject_ok_iff checkPort_ok_iff)

namespace CommandLine

/-- The settings that are asked for, with the defaults of all other fields. -/
def Init.settings (wish : Init) : Settings :=
  ⟨wish.project, wish.tag, none, Settings.defaultApiUrl, wish.port, Settings.defaultProbeTimeout,
    Settings.defaultApiTimeout, 30, .unhealthy⟩

theorem Init.ofData_data {wish : Init} {settings : Settings} (accepted : Settings.ofData wish.data = .ok settings) :
    settings = wish.settings := by
  obtain ⟨project, tag, key, url, port, probe, api, interval, policy⟩ := Settings.ofData_ok_iff.mp accepted
  have project : settings.projectId = wish.project := by
    obtain ⟨_, ⟨⟩, check⟩ := requiredField_ok_iff.mp project
    obtain ⟨_, ⟨⟩, checked⟩ := bind_ok_iff.mp check
    exact (checkProject_ok_iff.mp checked).1
  have tag : settings.eipTag = wish.tag := (Except.ok.inj (optionalField_ok_iff.mp tag)).symm
  have key : settings.apiKey = none := optionalField_ok_iff.mp key
  have url : settings.apiUrl = Settings.defaultApiUrl := optionalField_ok_iff.mp url
  have port : settings.apiServerPort = wish.port := by
    obtain ⟨_, ⟨⟩, checked⟩ := bind_ok_iff.mp (optionalField_ok_iff.mp port)
    exact (checkPort_ok_iff.mp checked).1
  have probe : settings.probeTimeout = Settings.defaultProbeTimeout := optionalField_ok_iff.mp probe
  have api : settings.apiTimeout = Settings.defaultApiTimeout := optionalField_ok_iff.mp api
  have interval : settings.interval = 30 := optionalField_ok_iff.mp interval
  have policy : settings.policy = .unhealthy := optionalField_ok_iff.mp policy
  obtain ⟨projectId, eipTag, apiKey, apiUrl, apiServerPort, probeTimeout, apiTimeout, seconds, transport⟩ := settings
  simp_all [Init.settings]

/-- The first so many characters of the text that new settings are written as. -/
def Init.beginning (wish : Init) (count : Nat) : String := String.ofList (wish.settings.save.toList.take count)

/-- Nothing breaks the command off once its file is open: the writing of files goes on to the end, and the terminal
takes what tells that the settings are written. -/
structure Init.IsUnhindered (wish : Init) (outages : Outages) : Prop where
  files : outages.files = none
  screen : ∀ screen, Console.printed wish.notice = .ok screen → outages.screen screen = none

/-- What writing new settings comes to: it is refused and the disk is left as it is, or the settings are on the disk,
in the stead of a file only where that is wished for; or the command is broken off, and a beginning of them is there. -/
inductive Init.Settles (wish : Init) (host : Host) : Except Ending Unit × Host → Prop where
  | refused {ending after} (failed : ending ≠ .exit 0) (same : after.disk = host.disk) :
      Settles wish host (.error ending, after)
  | written {after place} (led : host.disk.filePlace wish.file = .ok place)
      (wished : wish.force = true ∨ host.disk.pathExists wish.file = .ok false)
      (accepted : Settings.ofData wish.data = .ok wish.settings)
      (put : after.disk = host.disk.rewrite place wish.settings.save) : Settles wish host (.ok (), after)
  | brokenOff {ending after place count} (failed : ending ≠ .exit 0) (led : host.disk.filePlace wish.file = .ok place)
      (wished : wish.force = true ∨ host.disk.pathExists wish.file = .ok false)
      (hindered : ¬wish.IsUnhindered host.outages)
      (put : after.disk = host.disk.rewrite place (wish.beginning count)) : Settles wish host (.error ending, after)

private theorem isMarked_check : Console.Markup.IsMarked "green".toList "✓".toList "green" := by
  constructor
  case normal => rfl
  all_goals decide +kernel

/-- What tells of a file that is written has no tags that cannot be shown, unless an opening bracket is in its path. -/
theorem printed_notice {wish : Init} (free : '[' ∉ wish.file.text.toList) :
    ∃ screen, Console.printed wish.notice = .ok screen := by
  have front : "[green]✓[/green] Wrote ".toList =
      Console.Markup.marked "green".toList "✓".toList ++ ' ' :: "Wrote ".toList := by decide +kernel
  have whole : wish.notice.toList =
      Console.Markup.marked "green".toList "✓".toList ++ ' ' :: ("Wrote ".toList ++ wish.file.text.toList) := by
    change ("[green]✓[/green] Wrote " ++ wish.file.text).toList = _
    rw [String.toList_append, front, List.append_assoc]
    rfl
  have bracketless : (' ' :: ("Wrote ".toList ++ wish.file.text.toList)).contains '[' = false := by
    simp [free]
  obtain ⟨screen, shows, -⟩ := Console.printed_marked isMarked_check whole
    (Console.Markup.showPieces_bracketless bracketless _)
  exact ⟨screen, shows⟩

theorem Init.Settles.unreachable {wish : Init} {host after : Host} (fault : Files.Fault) (same : after.disk = host.disk) :
    wish.Settles host (.error (.unreachable fault), after) := by
  refine .refused ?_ same
  rintro ⟨⟩

private theorem settles_refusal (wish : Init) (host : Host) (text : String) :
    wish.Settles host (host.run (Session.printError text >>= fun _ => (Session.exit 1 : Session Unit))) := by
  obtain ⟨ending, after, ran, failed, same⟩ := host.run_refusal text
  rw [ran]
  exact .refused failed same

private theorem Init.beginning_length (wish : Init) : wish.beginning wish.settings.save.length = wish.settings.save := by
  unfold beginning
  rw [← String.length_toList, List.take_length, String.ofList_toList]

private theorem settles_write {wish : Init} (free : '[' ∉ wish.file.text.toList) (host : Host)
    (wished : wish.force = true ∨ host.disk.pathExists wish.file = .ok false)
    (accepted : Settings.ofData wish.data = .ok wish.settings) :
    wish.Settles host (host.run (Session.askFile (Session.ask (.writeFile wish.file wish.settings.save)) >>= fun _ =>
      Session.print wish.notice)) := by
  cases led : host.disk.filePlace wish.file with
  | error cause =>
    rw [Host.run_failed (Host.run_askFile_fault (Host.run_writeFile_fault led _))]
    exact .unreachable cause rfl
  | ok place =>
    cases outage : host.outages.files with
    | some broken =>
      obtain ⟨count, reason⟩ := broken
      have hindered : ¬wish.IsUnhindered host.outages := by
        intro unhindered
        rw [unhindered.files] at outage
        cases outage
      rw [Host.run_failed (Host.run_askFile_failed (Host.run_writeFile_broken led outage _))]
      exact .brokenOff nofun led wished hindered rfl
    | none =>
      rw [Host.run_passed (Host.run_askFile (Host.run_writeFile led outage _))]
      -- The settings are on the disk by now, so all depends on whether the terminal takes what tells of that.
      obtain ⟨screen, shows⟩ := printed_notice free
      rcases Host.run_print { host with disk := host.disk.rewrite place wish.settings.save } wish.notice with
        ⟨_, -, -, ran⟩ | ⟨ending, ran, failed, untaken⟩
      · rw [ran]
        exact .written led wished accepted rfl
      · have hindered : ¬wish.IsUnhindered host.outages := fun unhindered =>
          untaken screen shows (unhindered.screen screen shows)
        rw [ran]
        exact .brokenOff failed led wished hindered (by rw [wish.beginning_length])

/-- New settings are written, or the disk is left as it is, or writing them is broken off. -/
theorem settles_writeSettings {wish : Init} (free : '[' ∉ wish.file.text.toList) (host : Host) :
    wish.Settles host (host.run (writeSettings wish)) := by
  unfold writeSettings
  cases found : host.disk.pathExists wish.file with
  | error cause =>
    have asked : host.run (Session.ask (.pathExists wish.file)) = (.ok (.error cause), host) :=
      congrArg (fun reply => (Except.ok reply, host)) found
    rw [Host.run_failed (Host.run_askFile_fault asked)]
    exact .unreachable cause rfl
  | ok isThere =>
    have asked : host.run (Session.ask (.pathExists wish.file)) = (.ok (.ok isThere), host) :=
      congrArg (fun reply => (Except.ok reply, host)) found
    rw [Host.run_passed (Host.run_askFile asked)]
    split
    next => exact settles_refusal wish host _
    next wished =>
      split
      next => exact settles_refusal wish host _
      next settings accepted =>
        obtain rfl := Init.ofData_data accepted
        refine settles_write free host ?_ accepted
        simp only [Bool.and_eq_true, Bool.not_eq_true', not_and, Bool.not_eq_false] at wished
        cases isThere with
        | false => exact .inr found
        | true => exact .inl (wished rfl)

private theorem load_written {wish : Init} (accepted : Settings.ofData wish.data = .ok wish.settings) :
    Settings.load wish.settings.save = .ok wish.settings :=
  Settings.load_of_admissible (Settings.admissible_of_ofData accepted)
    (Yaml.toInteger_toString (Settings.short_port (show (0 : Int) ≤ 30 ∧ (30 : Int) ≤ 65535 by decide)))

/-- The file of new settings holds them. -/
def Init.IsLoaded (wish : Init) (disk : Disk) : Prop :=
  ∃ text, disk.read wish.file = .ok text ∧ Settings.load text = .ok wish.settings

/-- Either the command ends well and the settings are loaded from their file, or it does not and the file is as it was. -/
def Init.IsAllOrNothing (wish : Init) (host : Host) (ended : Except Ending Unit × Host) : Prop :=
  (ended.1 = .ok () ∧ wish.IsLoaded ended.2.disk) ∨
    (∃ ending, ended.1 = .error ending ∧ ending ≠ .exit 0) ∧
      ended.2.disk.standing (host.disk.aim wish.file) = host.disk.standing (host.disk.aim wish.file)

/-- What asking for new settings comes to on a host, where a log file may be wanted besides. It is all or nothing,
unless something breaks the command off once its file is open; and even then the command does not end well without
them, and nothing new is in the file but a beginning of them. What stands there is not touched against the wish, and
no file but the log file is touched elsewhere. -/
structure Init.IsAtomic (wish : Init) (log : Option Path) (host : Host) (ended : Except Ending Unit × Host) : Prop where
  settled : wish.IsUnhindered host.outages → wish.IsAllOrNothing host ended
  loaded : ended.1 = .ok () → wish.IsLoaded ended.2.disk
  begun : ended.2.disk.standing (host.disk.aim wish.file) = host.disk.standing (host.disk.aim wish.file) ∨
    ∃ count, ended.2.disk.textAt? (host.disk.aim wish.file) = some (wish.beginning count)
  kept : wish.force = false → host.disk.standing (host.disk.aim wish.file) ≠ (none, false) →
    ended.2.disk.standing (host.disk.aim wish.file) = host.disk.standing (host.disk.aim wish.file)
  others : ∀ place, place ≠ host.disk.aim wish.file → ¬Logging.IsLog host.disk log place →
    ended.2.disk.textAt? place = host.disk.textAt? place

private theorem standing_of_missing {disk : Disk} {path : Path} {place : Files.Place} (led : disk.filePlace path = .ok place)
    (missing : disk.pathExists path = .ok false) : disk.standing place = (none, false) := by
  obtain ⟨found, -⟩ := Disk.filePlace_ok_iff.mp led
  unfold Disk.pathExists at missing
  rw [found] at missing
  simpa [Disk.standing, and_comm] using missing

section

variable {wish : Init} {log : Option Path} {host ready : Host} (begins : Host.Begins log host ready)
  (apart : ¬Logging.IsLog host.disk log (host.disk.aim wish.file))
  (free : Logging.IsOnWay host.disk log (host.disk.aim wish.file) →
    host.disk.standing (host.disk.aim wish.file) ≠ (none, false))

include begins apart free

/-- The file asked for is written as it is wished for: what stands there by then is replaced only where that is wished
for, and no other file but the log file is touched. -/
theorem Init.kept_of_rewrite {after : Host} {place : Files.Place} {text : String}
    (led : ready.disk.filePlace wish.file = .ok place)
    (wished : wish.force = true ∨ ready.disk.pathExists wish.file = .ok false)
    (put : after.disk = ready.disk.rewrite place text) :
    after.disk.textAt? (host.disk.aim wish.file) = some text ∧
      (wish.force = false → host.disk.standing (host.disk.aim wish.file) ≠ (none, false) →
        after.disk.standing (host.disk.aim wish.file) = host.disk.standing (host.disk.aim wish.file)) ∧
      ∀ other, other ≠ host.disk.aim wish.file → ¬Logging.IsLog host.disk log other →
        after.disk.textAt? other = host.disk.textAt? other := by
  have before := begins.disk.standing apart free
  obtain rfl : place = host.disk.aim wish.file :=
    (Disk.locate_aim (Disk.filePlace_ok_iff.mp led).1).trans (begins.disk.aim wish.file)
  rw [put]
  refine ⟨Disk.textAt?_rewrite_self .., ?_, ?_⟩
  · -- A path that led nowhere may do so once folders are made; the wish is for what stands there then.
    intro unforced there
    rcases wished with forced | missing
    · rw [unforced] at forced
      cases forced
    · rw [← before] at there
      exact absurd (standing_of_missing led missing) there
  · intro other elsewhere unwritten
    rw [Disk.textAt?_rewrite_of_ne _ _ elsewhere]
    exact begins.disk.text other unwritten

private theorem Init.isAtomic_of_settles {ended : Except Ending Unit × Host} (settles : wish.Settles ready ended) :
    wish.IsAtomic log host ended := by
  cases settles with
  | @refused ending after failed same =>
    have before : after.disk.standing (host.disk.aim wish.file) = host.disk.standing (host.disk.aim wish.file) := by
      rw [same]
      exact begins.disk.standing apart free
    refine ⟨fun _ => .inr ⟨⟨ending, rfl, failed⟩, before⟩, nofun, .inl before, fun _ _ => before, ?_⟩
    intro other _ unwritten
    rw [same]
    exact begins.disk.text other unwritten
  | @written after place led wished accepted put =>
    obtain ⟨here, kept, others⟩ := Init.kept_of_rewrite begins apart free led wished put
    have loaded : wish.IsLoaded after.disk := by
      refine ⟨wish.settings.save, ?_, load_written accepted⟩
      rw [put]
      exact Disk.read_rewrite led _
    rw [← wish.beginning_length] at here
    exact ⟨fun _ => .inl ⟨rfl, loaded⟩, fun _ => loaded, .inr ⟨_, here⟩, kept, others⟩
  | @brokenOff ending after place count failed led wished hindered put =>
    obtain ⟨here, kept, others⟩ := Init.kept_of_rewrite begins apart free led wished put
    rw [begins.outages] at hindered
    exact ⟨fun unhindered => absurd unhindered hindered, nofun, .inr ⟨count, here⟩, kept, others⟩

end

/-- A command line that asks for new settings puts them on the disk or leaves their file alone, as long as the log file
is not their file, no folder is made for it where they are to be, and nothing breaks the command off half way. -/
theorem isAtomic_carryOut {arguments : List String} {invocation : Invocation} {wish : Init} {host : Host}
    (read : Invocation.read arguments = some invocation)
    (asked : Command.read invocation.name invocation.arguments = some (.init wish))
    (bracketless : '[' ∉ wish.file.text.toList)
    (apart : ¬Logging.IsLog host.disk invocation.shared.logFile (host.disk.aim wish.file))
    (free : Logging.IsOnWay host.disk invocation.shared.logFile (host.disk.aim wish.file) →
      host.disk.standing (host.disk.aim wish.file) ≠ (none, false)) (pageLimit : Nat) :
    wish.IsAtomic invocation.shared.logFile host (host.carryOut pageLimit arguments) := by
  obtain ⟨ready, begins, ran | ⟨fault, ran⟩⟩ := host.carryOut_begins read asked pageLimit
  · rw [ran]
    exact Init.isAtomic_of_settles begins apart free (settles_writeSettings bracketless ready)
  · rw [ran]
    exact Init.isAtomic_of_settles begins apart free (.unreachable fault rfl)

/-- A host with nothing on its disk. -/
def bareHost : Host := {}

/-- A wish for settings where nothing stands yet. -/
def plainWish : Init := ⟨"proj-1", "cp-eip", 0, .ofText "c.yml", false⟩

def wishing : List String := ["-p", "proj-1", "-t", "cp-eip", "-c", "c.yml"]

/-- The command line that tells of the wish, with a log file. -/
def wishingWith (log : String) : List String := "--log-file" :: log :: "init" :: wishing

theorem isAtomic_wishing :
    Invocation.read (wishingWith "d/log") = some ⟨⟨false, some (.ofText "d/log")⟩, .init, wishing⟩ ∧
      Command.read .init wishing = some (.init plainWish) ∧ '[' ∉ plainWish.file.text.toList ∧
      (¬Logging.IsLog bareHost.disk (some (.ofText "d/log")) (bareHost.disk.aim plainWish.file)) ∧
      (Logging.IsOnWay bareHost.disk (some (.ofText "d/log")) (bareHost.disk.aim plainWish.file) →
        bareHost.disk.standing (bareHost.disk.aim plainWish.file) ≠ (none, false)) ∧
      plainWish.IsUnhindered bareHost.outages ∧
      plainWish.IsAtomic (some (.ofText "d/log")) bareHost (bareHost.carryOut 40 (wishingWith "d/log")) := by
  have read : Invocation.read (wishingWith "d/log") = some ⟨⟨false, some (.ofText "d/log")⟩, .init, wishing⟩ := by
    decide +kernel
  have asked : Command.read .init wishing = some (.init plainWish) := by decide +kernel
  have bracketless : '[' ∉ plainWish.file.text.toList := by decide +kernel
  have apart : ¬Logging.IsLog bareHost.disk (some (.ofText "d/log")) (bareHost.disk.aim plainWish.file) := by
    rintro ⟨_, ⟨⟩, same⟩
    revert same
    decide +kernel
  have free : Logging.IsOnWay bareHost.disk (some (.ofText "d/log")) (bareHost.disk.aim plainWish.file) →
      bareHost.disk.standing (bareHost.disk.aim plainWish.file) ≠ (none, false) := by
    rintro ⟨_, ⟨⟩, names, front, same⟩
    have folder : (Path.ofText "d/log").parent.names = ["d"] := by decide +kernel
    rw [folder] at front
    revert same
    rcases List.prefix_cons_iff.mp front with rfl | ⟨_, rfl, further⟩
    · decide +kernel
    · rw [List.prefix_nil.mp further]
      decide +kernel
  exact ⟨read, asked, bracketless, apart, free, ⟨rfl, fun _ _ => rfl⟩,
    isAtomic_carryOut read asked bracketless apart free 40⟩

/-- A host with a terminal that takes ASCII alone. -/
def asciiHost : Host where
  outages := { screen := fun text =>
    if text.toList.all (·.toNat < 128) then none else some "ordinal not in range(128)" }

/-- A host with no room for files. -/
def fullHost : Host where
  outages := { files := some (0, "No space left on device") }

/-- A host and a log file, whose path is not that of the settings file, with which the command is not all or nothing. -/
def LeavesTraces (host : Host) (log : String) : Prop :=
  Path.ofText log ≠ plainWish.file ∧
    Invocation.read (wishingWith log) = some ⟨⟨false, some (.ofText log)⟩, .init, wishing⟩ ∧
    Command.read .init wishing = some (.init plainWish) ∧ '[' ∉ plainWish.file.text.toList ∧
    ¬plainWish.IsAllOrNothing host (host.carryOut 40 (wishingWith log))

private theorem leavesTraces_of_standing {host : Host} {log : String} (differs : Path.ofText log ≠ plainWish.file)
    (read : Invocation.read (wishingWith log) = some ⟨⟨false, some (.ofText log)⟩, .init, wishing⟩)
    (failed : (host.carryOut 40 (wishingWith log)).1.toBool = false)
    (changed : (host.carryOut 40 (wishingWith log)).2.disk.standing (host.disk.aim plainWish.file) ≠
      host.disk.standing (host.disk.aim plainWish.file)) : LeavesTraces host log := by
  refine ⟨differs, read, by decide +kernel, by decide +kernel, ?_⟩
  rintro (⟨done, -⟩ | ⟨-, same⟩)
  · rw [done] at failed
    cases failed
  · exact changed same

/-- A log file that leads to the settings file by another path, one that makes a folder of it, a terminal that has no
sign for what tells of success, and a disk that is full: each time the command fails, and something stands where
nothing was. -/
theorem leavesTraces_wishing :
    LeavesTraces bareHost "d/../c.yml" ∧ LeavesTraces bareHost "c.yml/log" ∧ LeavesTraces asciiHost "d/log" ∧
      LeavesTraces fullHost "d/log" := by
  refine ⟨?_, ?_, ?_, ?_⟩
  all_goals
    apply leavesTraces_of_standing
    all_goals decide +kernel

end CommandLine

end ElasticEndpoint
