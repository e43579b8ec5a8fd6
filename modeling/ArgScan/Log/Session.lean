import ArgScan.Log.Record

/-!
# Log sessions

A session holds what has been written so far, and the handlers that records are written by. Setting
it up again replaces the handlers by one for the console, followed by one for a file if a file is
named. A record reaches each handler whose level is not above its own, provided that it is not below
the session's.

Setting up goes step by step, and what fails leaves the steps before it done: the level of the
session is set and the old handlers are gone before the mode is looked at, and the handler for the
console is there before the file is opened.
-/

namespace ArgScan.Log

/-- Where a handler writes to, and how. -/
inductive Sink where
  /-- To the console, in columns. It remembers whether it has shown the time. -/
  | console (timeShown : Bool)
  /-- To the standard error output, in JSON. -/
  | errors
  /-- To a file, in JSON or as plain text. -/
  | file (path : String) (asJson : Bool)
deriving DecidableEq

/-- A handler of records. -/
structure Handler where
  /-- Where it writes to. -/
  sink : Sink
  /-- The lowest level that it writes. -/
  level : Int
deriving DecidableEq

/-- What has been written. -/
structure Streams where
  /-- The text on the standard output. -/
  output : String := ""
  /-- The text on the standard error output. -/
  errors : String := ""
  /-- The texts of the files that were opened. -/
  files : List (String × String) := []
deriving DecidableEq

/-- A session. -/
structure Session where
  /-- The lowest level that is written at all. -/
  level : Int := warningLevel
  /-- The handlers. -/
  handlers : List Handler := []
  /-- What has been written. -/
  streams : Streams := {}
deriving DecidableEq

namespace Streams

/-- Adds text to a file. -/
def addToFile (s : Streams) (path text : String) : Streams :=
  { s with files := s.files.map fun file =>
      if file.1 = path then (path, file.2 ++ text) else file }

/-- Opens a file, which begins empty if it is not open already. -/
def openFile (s : Streams) (path : String) : Streams :=
  if (s.files.lookup path).isSome then s else { s with files := s.files ++ [(path, "")] }

end Streams

/-- Writes a record by one handler, if its level lets it. -/
def Handler.write (h : Handler) (r : Record) (s : Streams) : Handler × Streams :=
  if r.level < h.level then (h, s)
  else
    match h.sink with
    | .console timeShown =>
      let text := Console.ofLines (r.consoleLines timeShown)
      ({ h with sink := .console true }, { s with output := s.output ++ text })
    | .errors => (h, { s with errors := s.errors ++ r.json ++ "\n" })
    | .file path asJson =>
      (h, s.addToFile path ((if asJson then r.json else r.plain) ++ "\n"))

/-- Writes a record by handlers in their order. -/
def writeAll (r : Record) : List Handler → Streams → List Handler × Streams
  | [], s => ([], s)
  | h :: rest, s =>
    let (h, s) := h.write r s
    let (rest, s) := writeAll r rest s
    (h :: rest, s)

namespace Session

/-- Logs a record. -/
def log (s : Session) (r : Record) : Session :=
  if r.level < s.level then s
  else
    let (handlers, streams) := writeAll r s.handlers s.streams
    { s with handlers, streams }

/-- Writes text to the standard output. -/
def write (s : Session) (text : String) : Session :=
  { s with streams := { s.streams with output := s.streams.output ++ text } }

end Session

/-! ## Setting up -/

/-- How records are written to the console. -/
inductive Mode where
  /-- In columns. -/
  | cli
  /-- In JSON. -/
  | json
deriving DecidableEq

/-- The mode with a name. -/
def Mode.ofName? : String → Option Mode
  | "cli" => some cli
  | "json" => some json
  | _ => none

/-- The name of a mode. -/
def Mode.word : Mode → String
  | cli => "cli"
  | json => "json"

/-- Options for a session. -/
structure Options where
  /-- The name of the mode. Without one, or with an empty one, the environment's is taken. -/
  mode : Option String := none
  /-- The file to log to. -/
  file : Option String := none
  /-- Records go to the file in JSON. -/
  fileAsJson : Bool := false
  /-- The lowest level for the file. -/
  fileLevel : Int := debugLevel
  /-- The lowest level for the console. -/
  consoleLevel : Int := warningLevel
deriving DecidableEq

/-- A text that is there and not empty. -/
def nonempty? (text : Option String) : Option String := text.filter (· ≠ "")

/-- The name of the mode: that of the options, else that of the environment, else the default. -/
def Options.modeName (o : Options) (environment : Option String) : String :=
  ((nonempty? o.mode).or (nonempty? environment)).getD "cli"

/-- Why a session cannot be set up. -/
inductive SetupError where
  /-- There is no mode with the name. -/
  | invalidMode (name : String)
  /-- The file cannot be opened. -/
  | cannotOpen (path : String)
deriving DecidableEq

/-- The wording of a setup error. A file that cannot be opened is refused without words. -/
def SetupError.message : SetupError → String
  | invalidMode name => "Invalid log mode: " ++ name
  | cannotOpen _ => ""

/-- The name of the program's logger. -/
def programLogger : String := "argmatch"

namespace Session

/-- Logs a debug message of the program. -/
def debug (s : Session) (message : String) : Session :=
  s.log { logger := programLogger, level := debugLevel, message }

/-- The session without handlers, open to debug messages. -/
def reset (s : Session) : Session := { s with level := debugLevel, handlers := [] }

/-- Adds a handler. -/
def add (s : Session) (h : Handler) : Session := { s with handlers := s.handlers ++ [h] }

/-- Sets up a session, and why that fails if it does. `canOpen` says which files can be opened. -/
def setup (canOpen : String → Bool) (o : Options) (environment : Option String) (s : Session) :
    Session × Option SetupError :=
  let s := s.reset
  let name := o.modeName environment
  match Mode.ofName? name with
  | none => (s, some (.invalidMode name))
  | some mode =>
    let sink := match mode with
      | .cli => Sink.console false
      | .json => .errors
    let s := s.add { sink, level := o.consoleLevel }
    let ready (s : Session) := s.debug ("Logging initialized in '" ++ name ++ "' mode.")
    match nonempty? o.file with
    | none => (ready s, none)
    | some path =>
      if canOpen path then
        let s := { s with streams := s.streams.openFile path }
        (ready (s.add { sink := .file path o.fileAsJson, level := o.fileLevel }), none)
      else (s, some (.cannotOpen path))

end Session

end ArgScan.Log
