import ArgScan.Console.Lines
import ArgScan.Text.JsonString
import ArgScan.Text.Numeral

/-!
# Log records

A record has the name of the logger, a level and a message. It is written in one of three forms: as
an object in JSON, as a line of plain text, or in columns for a console. The clock of the records
stands still, so that a log depends on nothing but what is logged.
-/

namespace ArgScan.Log

/-- A record. -/
structure Record where
  /-- The name of the logger. -/
  logger : String
  /-- The level. -/
  level : Int
  /-- The message. -/
  message : String
deriving DecidableEq

/-- The name that records of a logger have. The logger without a name is the root of all. -/
def loggerName (name : String) : String := if name = "" then "root" else name

/-- The level of debug messages. -/
def debugLevel : Int := 10

/-- The level of warnings. -/
def warningLevel : Int := 30

/-- The names of levels. -/
def levelNames : List (Int × String) := [
  (0, "NOTSET"), (debugLevel, "DEBUG"), (20, "INFO"), (warningLevel, "WARNING"), (40, "ERROR"),
  (50, "CRITICAL")]

/-- The name of a level. A level without a name of its own is named by its number. -/
def levelName (level : Int) : String :=
  (levelNames.lookup level).getD ("Level " ++ Text.signedDecimal level)

/-- The time that the clock shows. -/
def timeText : String := "1970-01-01 00:00:00"

namespace Record

/-- A record as an object in JSON. -/
def json (r : Record) : String :=
  let fields := [("asctime", timeText ++ ",000"), ("name", r.logger),
    ("levelname", levelName r.level), ("message", r.message)]
  let written := fields.map fun (key, value) => Text.jsonQuoted key ++ ": " ++ Text.jsonQuoted value
  "\x7b" ++ ", ".intercalate written ++ "\x7d"

/-- A record as a line of plain text. -/
def plain (r : Record) : String :=
  timeText ++ " [" ++ r.logger ++ "] [" ++ levelName r.level ++ "] " ++ r.message

/-- The width of the column of levels. -/
def levelWidth : Nat := 8

/-- A record in columns for a console: the time, the level and the message. The time is left blank
if the record before it shows it. -/
def consoleLines (timeShown : Bool) (r : Record) : List (List Char) :=
  let time := ("[" ++ timeText ++ "]").toList
  let blank (n : Nat) := List.replicate n ' '
  let messageWidth := Console.consoleWidth - (time.length + 1 + levelWidth + 1)
  let name := (levelName r.level).toList
  let level := name ++ blank (levelWidth - name.length)
  let narrow : Console.Layout := { width := levelWidth, overflow := .ellipsis, filled := true }
  let levels := Console.setLines narrow level
  let messages := Console.setLines { width := messageWidth, filled := true } r.message.toList
  (List.range (max levels.length messages.length)).map fun i =>
    (if i = 0 && !timeShown then time else blank time.length) ++
      ' ' :: levels.getD i (blank levelWidth) ++
      ' ' :: messages.getD i (blank messageWidth)

end Record

end ArgScan.Log
