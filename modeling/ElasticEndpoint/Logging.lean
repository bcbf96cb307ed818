import ElasticEndpoint.Record
import ElasticEndpoint.Files.Disk

/-!
Logging. An entry of a logger is written to the console and to a log file, each with a threshold of
its own, if it passes the threshold that holds for its logger. The libraries that the program uses
have a threshold apart from all other loggers.
-/

namespace ElasticEndpoint

open Files (Disk Path Place)

structure Entry where
  logger : String
  level : Int
  message : String
  deriving DecidableEq

def Record.entry (record : Record) : Entry := ⟨record.part.logger, record.severity.level, record.message⟩

namespace Level

def names : List (String × Int) := [
  ("CRITICAL", 50), ("FATAL", 50), ("ERROR", 40), ("WARNING", 30), ("WARN", 30), ("INFO", 20),
  ("DEBUG", 10), ("NOTSET", 0)]

def debug : Int := 10

def warning : Int := 30

def shown (level : Int) : String :=
  match names.find? fun named => named.2 == level with
  | some (name, _) => name
  | none => s!"Level {level}"

/-- Why a name gives no level: nothing has it, or what has it is a text or a table. -/
inductive NameFault where
  | unknown
  | text
  | table
  deriving DecidableEq

/-- The letters outside ASCII whose upper case is in it; ligatures fall apart. -/
def foreignLetters : List (Char × String) := [
  ('ß', "SS"), ('ı', "I"), ('ſ', "S"), ('ﬀ', "FF"), ('ﬁ', "FI"), ('ﬂ', "FL"), ('ﬃ', "FFI"), ('ﬄ', "FFL"),
  ('ﬅ', "ST"), ('ﬆ', "ST")]

/-- The upper case of a character, as far as levels are named with it. -/
def upper (c : Char) : List Char :=
  match foreignLetters.lookup c with
  | some letters => letters.toList
  | none => [c.toUpper]

def ofName (name : String) : Except NameFault Int :=
  let name := String.ofList (name.toList.flatMap upper)
  match names.lookup name with
  | some level => .ok level
  | none =>
    if name == "BASIC_FORMAT" then .error .text
    else if name == "_STYLES" then .error .table
    else .error .unknown

end Level

namespace Logging

/-- Where entries are written. -/
inductive Sink where
  | console
  | file (place : Place)
  deriving DecidableEq

structure Handler where
  sink : Sink
  threshold : Int
  deriving DecidableEq

end Logging

/-- How entries are handled: the threshold of loggers, that of the libraries (zero leaves them to
the former), and the handlers in order. -/
structure Logging where
  threshold : Int := Level.warning
  libraryThreshold : Int := 0
  handlers : List Logging.Handler := []
  deriving DecidableEq

namespace Logging

/-- The libraries that have a threshold of their own. -/
def libraries : List String := ["urllib3", "kubernetes"]

/-- Whether a logger is one of some loggers or below one of them. -/
def isWithin (loggers : List String) (logger : String) : Bool :=
  loggers.any fun above => logger == above || (above ++ ".").isPrefixOf logger

def isLibrary (logger : String) : Bool := isWithin libraries logger

/-- The loggers of libraries that have a handler of their own, which writes nothing. -/
def quietLoggers : List String := [
  "charset_normalizer", "google.auth", "oauthlib", "requests", "requests_oauthlib", "urllib3", "websocket"]

def thresholdFor (logging : Logging) (logger : String) : Int :=
  if isLibrary logger && logging.libraryThreshold != 0 then logging.libraryThreshold
  else logging.threshold

def admits (logging : Logging) (entry : Entry) : Bool :=
  0 < entry.level && logging.thresholdFor entry.logger ≤ entry.level

/-- The name of the logger that every other one is below. -/
def rootName : String := "root"

def line (time : String) (entry : Entry) : String :=
  let logger := if entry.logger.isEmpty then rootName else entry.logger
  s!"{time} - {logger} - {Level.shown entry.level} - {entry.message}\n"

/-- What is written for an entry, and where. While there are no handlers, the message of an entry
that needs attention is written to the console unless its logger has a handler of its own. -/
def outputs (logging : Logging) (time : String) (entry : Entry) : List (Sink × String) :=
  if !logging.admits entry then []
  else if logging.handlers.isEmpty then
    if Level.warning ≤ entry.level && !isWithin quietLoggers entry.logger then
      [(.console, entry.message ++ "\n")]
    else []
  else
    (logging.handlers.filter fun handler => handler.threshold ≤ entry.level).map fun handler =>
      (handler.sink, line time entry)

structure Setup where
  level : String := "INFO"
  file : Option Path := none
  verbose : Bool := false
  consoleLevel : Int := Level.warning

/-- The place of a log file, with a disk that has the file and the folders above it. -/
def openFile (disk : Disk) (path : Path) : Except Files.Fault Place × Disk :=
  let folder := path.parent
  match disk.makeFolders folder folder.names.length with
  | (some fault, disk) => (.error fault, disk)
  | (none, disk) =>
    match disk.openAtEnd (disk.absolute path) with
    | .ok (place, disk) => (.ok place, disk)
    | .error fault => (.error fault, disk)

/-- Logging with one console handler in the stead of all handlers, as it is before a log file is
opened. -/
def onConsole (logging : Logging) (setup : Setup) : Except Level.NameFault Logging := do
  let threshold ← Level.ofName (if setup.verbose then "DEBUG" else setup.level)
  let console : Handler := ⟨.console, if setup.verbose then Level.debug else setup.consoleLevel⟩
  return { logging with threshold := threshold, handlers := [console] }

/-- Logging with the threshold of the libraries, which is the last that is set up. -/
def withLibraries (logging : Logging) : Logging := { logging with libraryThreshold := Level.warning }

/-- With a handler for the log file at a place, which hides nothing that happens. -/
def andFile (logging : Logging) (place : Place) : Logging :=
  { logging with handlers := logging.handlers ++ [⟨.file place, Level.debug⟩] }

def fileNotice (fault : Files.Fault) : Entry :=
  ⟨rootName, Level.warning, s!"Failed to create log file handler: {fault.message}"⟩

/-- Why setting up ends before its end. -/
inductive SetupFault where
  | level (fault : Level.NameFault)
  | file (fault : Files.Fault)

/-- What setting up gives: the logging, the disk, what there is to say about the log file, and why it
ended before its end. -/
structure Ready where
  logging : Logging
  disk : Disk
  notice : Option Entry := none
  fault : Option SetupFault := none

/-- Sets logging up: one console handler in the stead of all handlers, and a file handler if a file
is asked for and can be opened. A name that gives no level changes nothing, and behind a log file
that cannot even be named nothing more is set up. -/
def setUp (logging : Logging) (setup : Setup) (disk : Disk) : Ready :=
  match logging.onConsole setup with
  | .error fault => { logging := logging, disk := disk, fault := some (.level fault) }
  | .ok logging =>
    match setup.file with
    | none => { logging := logging.withLibraries, disk := disk }
    | some path =>
      match openFile disk path with
      | (.ok place, disk) => { logging := (logging.andFile place).withLibraries, disk := disk }
      | (.error fault, disk) =>
        if fault.isReported then
          { logging := logging.withLibraries, disk := disk, notice := some (fileNotice fault) }
        else { logging := logging, disk := disk, fault := some (.file fault) }

/-- Lowers the threshold of the console to a level; a lower threshold is kept. -/
def lowerConsole (logging : Logging) (level : Int) : Logging :=
  { logging with handlers := logging.handlers.map fun handler =>
      if handler.sink == .console then { handler with threshold := min handler.threshold level }
      else handler }

end Logging

end ElasticEndpoint
