import ArgScan.Buffer
import ArgScan.CommandLine.Request
import ArgScan.Console.Markup
import ArgScan.Settings.File

/-!
# Reports

A command loads a settings file, does its work, and reports. A report is a value: the acts that the
command asks for, in their order, and how it ends. The table of a scan is part of it as rows of
texts, before any of them is shown, and so is the line with the tokens that are left.

Some failures are told to the user and others end the program. A settings file that is missing, in
an unknown format or of the wrong shape is told, and so is an entry at fault or a missing value. A
key of an entry that is no text ends the program, and so does an error of the host, unless it is of
a kind that the program counts on.
-/

namespace ArgScan

/-- The row of a definition in the table of a scan. -/
structure Row where
  /-- The definition as it is written. -/
  definition : String
  /-- Its kind. -/
  kind : String
  /-- Whether it was found. -/
  present : String
  /-- Its value. -/
  value : String
deriving DecidableEq

namespace Row

/-- The heads of the columns. -/
def heads : List String := ["Argument", "Kind", "Present", "Value"]

/-- The cells of a row. -/
def cells (r : Row) : List String := [r.definition, r.kind, r.present, r.value]

/-- The row of a definition and what was found for it. A value shows as a literal, and no value as
nothing. -/
def of (d : Definition) (f : Finding) : Row where
  definition := d.head
  kind := d.kind.word
  present := if f.present then "yes" else "no"
  value := (f.value.map Text.quoted).getD ""

end Row

/-- What a command asks for. -/
inductive Act where
  /-- To log a debug message. -/
  | debug (message : String)
  /-- To print a text as it is. -/
  | text (text : String)
  /-- To print a text with markup. -/
  | markup (text : String)
  /-- To print the table of a scan, in whose cells markup counts. -/
  | table (rows : List Row)
deriving DecidableEq

/-- Why a command fails. -/
inductive Failure where
  /-- The settings file gives no definitions. -/
  | file (error : Settings.FileError)
  /-- An option is to be rendered without a value. -/
  | missingValue (error : MissingValue)
  /-- A position lies outside the tokens. -/
  | position (fault : PositionFault)

namespace Failure

/-- Whether a failure is told to the user. Others end the program. -/
def isTold : Failure → Bool
  | file .notPath => false
  | file (.missing _) | file (.unsupported _) | file .shape => true
  | file (.host error) => error.kind.isExpected
  | file (.entry .keyNotText) => false
  | file (.entry (.draft .aliasesNotIterable)) => false
  | file (.entry _) => true
  | missingValue _ => true
  | position _ => false

/-- The wording of a failure. -/
def message : Failure → String
  | file error => error.message
  | missingValue error => error.message
  | position _ => ""

end Failure

/-- What a command does, and how it ends: with an exit status, or with a failure. -/
structure Report where
  /-- What the command asks for, in order. -/
  acts : List Act
  /-- How the command ends. -/
  outcome : Except Failure Nat

namespace Report

/-- A text as markup that shows it. -/
def escaped (text : String) : String := String.ofList (Console.Markup.escape text.toList)

/-- The report of a command that goes on with the definitions of a settings file. -/
def withDefinitions (host : Host) (config : String) (goOn : List Definition → Report) : Report :=
  match Settings.load host config with
  | .error error => { acts := [], outcome := .error (.file error) }
  | .ok loaded =>
    let report := goOn loaded.definitions
    { report with acts := .debug loaded.message :: report.acts }

/-- Renders the definition with a name. -/
def format (config name : String) (value : Option String) (definitions : List Definition) :
    Report :=
  match Definition.find? definitions name with
  | none =>
    { acts := [.markup ("[red]No argument named '" ++ escaped name ++ "' in " ++ escaped config ++
        "[/]")]
      outcome := .ok 1 }
  | some d =>
    match d.render value with
    | .error error => { acts := [], outcome := .error (.missingValue error) }
    | .ok rendering => { acts := rendering.tokens.map .text, outcome := .ok 0 }

/-- The tokens that a scan goes over: those given, without a first one of two hyphens. -/
def scanned : List String → List String
  | "--" :: rest => rest
  | tokens => tokens

/-- Scans tokens for definitions. -/
def parse (strict : Bool) (tokens : List String) (definitions : List Definition) : Report :=
  match scan definitions (scanned tokens) with
  | .error fault => { acts := [], outcome := .error (.position fault) }
  | .ok s =>
    let notes := s.notices.map fun notice => Act.debug notice.message
    let rows := (definitions.zip s.findings).map fun (d, f) => Row.of d f
    let left := Act.text ("Remaining: " ++ Text.quotedList s.tokens)
    let isRefused := strict && !s.tokens.isEmpty
    let refusal := Act.markup ("[red]Unrecognized arguments:[/] " ++
      escaped (" ".intercalate s.tokens))
    { acts := notes ++ [.table rows, left] ++ (if isRefused then [refusal] else [])
      outcome := .ok (if isRefused then 2 else 0) }

/-- The name of a command. -/
def commandName : CommandLine.Command → String
  | .format .. => "format"
  | .parse .. => "parse"

/-- The report of a command. -/
def ofCommand (host : Host) : CommandLine.Command → Report
  | .format config name value => withDefinitions host config (format config name value)
  | .parse config strict tokens => withDefinitions host config (parse strict tokens)

/-- The report with a failure that is told: it is logged and printed, and the exit status is one. -/
def told (command : CommandLine.Command) (r : Report) : Report :=
  match r.outcome with
  | .error failure =>
    if failure.isTold then
      { acts := r.acts ++ [
          .debug ("Command '" ++ commandName command ++ "' failed"),
          .markup ("[red]Error:[/] " ++ escaped failure.message)]
        outcome := .ok 1 }
    else r
  | .ok _ => r

end Report

end ArgScan
