import ArgScan.Console.Table
import ArgScan.Log.Session
import ArgScan.Report

/-!
# The program

The program reads its command line, sets up its log, and runs a command, whose report it prints and
logs. A run depends on the command line, the host and the log mode of the environment, and on
nothing else. It ends with a response or is broken off; what was printed until then is of no
account.
-/

namespace ArgScan.Program

/-- The name of the program. -/
def name : String := "argmatch"

/-- The version of the program. -/
def version : String := "0.1.0"

/-- What a run gives. -/
structure Response where
  /-- The exit status. -/
  status : Nat
  /-- The text on the standard output. -/
  output : String
  /-- The text on the standard error output. -/
  errors : String
deriving DecidableEq

/-- Why a run is broken off. -/
inductive Breakdown where
  /-- The log cannot be set up. -/
  | log (error : Log.SetupError)
  /-- A text that is printed has markup that closes nothing. -/
  | markup (error : Console.Markup.Error)
  /-- The command fails in a way that is not told. -/
  | failure (failure : Failure)

/-! ## Printing -/

/-- The text that a cell shows. -/
def shownCell (cell : String) (dialect : Console.Dialect := .plain) :
    Except Console.Markup.Error (List Char) :=
  (Console.Markup.render cell.toList dialect).map Console.shown

/-- The texts that the cells of rows show. -/
def shownRows (rows : List Row) (dialect : Console.Dialect := .plain) :
    Except Console.Markup.Error (List (List (List Char))) :=
  rows.mapM fun row => row.cells.mapM fun cell => shownCell cell dialect

/-- The table of a scan, with the texts that its cells show. -/
def tableOf (rows : List (List (List Char))) : Console.Table where
  title := "Matches".toList
  heads := Row.heads.map String.toList
  rows := rows

/-- Prints or logs what a command asks for. Codes count in every text that is printed, also in one
without markup. -/
def play (dialect : Console.Dialect) (s : Log.Session) :
    Act → Except Console.Markup.Error Log.Session
  | .debug message => .ok (s.debug message)
  | .text text => .ok (s.write (Console.printed (dialect.replace text.toList)))
  | .markup text =>
    (Console.Markup.render text.toList dialect).map fun shown => s.write (Console.printed shown)
  | .table rows =>
    (shownRows rows dialect).map fun rows => s.write (Console.ofLines (tableOf rows).lines)

/-- Prints or logs all that a command asks for, in order. -/
def playAll (dialect : Console.Dialect) (s : Log.Session) :
    List Act → Except Console.Markup.Error Log.Session
  | [] => .ok s
  | act :: rest => do playAll dialect (← play dialect s act) rest

/-! ## Running -/

/-- The options of the log that a request asks for. -/
def logOptions (r : CommandLine.Request) : Log.Options where
  mode := r.logMode
  consoleLevel := if r.verbose then Log.debugLevel else Log.warningLevel

/-- The response of a session with an exit status. -/
def respond (s : Log.Session) (status : Nat) : Response where
  status := status
  output := s.streams.output
  errors := s.streams.errors

/-- Runs a command in a session. -/
def runCommand (host : Host) (command : CommandLine.Command) (s : Log.Session) :
    Except Breakdown Response := do
  let report := (Report.ofCommand host command).told command
  let s ← (playAll host.dialect s report.acts).mapError .markup
  match report.outcome with
  | .ok status => return respond s status
  | .error failure => .error (.failure failure)

/-- Does what a request asks for. -/
def runRequest (host : Host) (environment : Option String) (r : CommandLine.Request) :
    Except Breakdown Response :=
  let canOpen (path : String) := host.canAppend (.ofText path)
  match Log.Session.setup canOpen (logOptions r) environment {} with
  | (_, some error) => .error (.log error)
  | (s, none) =>
    if r.version then
      .ok (respond (s.write (Console.printed (name ++ " " ++ version).toList)) 0)
    else
      match r.command with
      | none => .ok (respond (s.write (CommandLine.rootGrammar name).help) 1)
      | some command => runCommand host command s

/-- Runs the program. -/
def run (host : Host) (environment : Option String) (argv : List String) :
    Except Breakdown Response :=
  match CommandLine.Request.read name argv with
  | .ok request => runRequest host environment request
  | .error halt => .ok { status := halt.status, output := halt.output, errors := halt.errors }

end ArgScan.Program
