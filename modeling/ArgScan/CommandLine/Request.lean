import ArgScan.CommandLine.Help
import ArgScan.CommandLine.Values

/-!
# Requests

What the program can be asked for on its command line. There are options for all commands, and two
commands: one renders a definition, and one scans words for all definitions of a settings file. The
command's own grammar reads the words behind its name. A word that nothing takes is reported only
when all else has been read.
-/

namespace ArgScan.CommandLine

/-- What a command is to do. -/
inductive Command where
  /-- Render the definition with a name, with or without a value. -/
  | format (config name : String) (value : Option String)
  /-- Scan tokens, and object to tokens that are left if it is strict. -/
  | parse (config : String) (strict : Bool) (tokens : List String)
deriving DecidableEq

/-- What the program is asked for. -/
structure Request where
  /-- Debug messages are to be logged. -/
  verbose : Bool := false
  /-- The log mode asked for. -/
  logMode : Option String := none
  /-- The version is asked for. -/
  version : Bool := false
  /-- The command. -/
  command : Option Command := none
deriving DecidableEq

/-- A command line that is not read to its end: the grammar that stopped, and why. -/
structure Halt where
  /-- The grammar. -/
  grammar : Grammar
  /-- Why it stopped. -/
  stop : Stop
deriving DecidableEq

namespace Halt

/-- The exit status. -/
def status (h : Halt) : Nat :=
  match h.stop with
  | .help => 0
  | .fault _ => 2

/-- The text for the standard output. -/
def output (h : Halt) : String :=
  match h.stop with
  | .help => h.grammar.help
  | .fault _ => ""

/-- The text for the standard error output: the usage and the fault. -/
def errors (h : Halt) : String :=
  match h.stop with
  | .help => ""
  | .fault fault =>
    h.grammar.usage ++ "\n" ++ h.grammar.program ++ ": error: " ++ fault.message ++ "\n"

end Halt

/-! ## The grammars -/

/-- The option that asks for help. -/
def helpOption : Parameter where
  spellings := ["-h", "--help"]
  name := "help"
  arity := .switch
  asksHelp := true
  help := "show this help message and exit"

/-- The option for the settings file. -/
def configOption : Parameter where
  spellings := ["-c", "--config"]
  name := "config"
  arity := .one
  required := true
  help := "YAML or TOML file with the definitions"

/-- The commands. -/
def commandGroup : CommandGroup where
  title := "Commands"
  description := "Available commands for the argmatch CLI."
  name := "command"
  commands := [
    ("format", "Render one argument definition into command-line tokens"),
    ("parse", "Match the configured definitions against a list of tokens")]

/-- The grammar of the program. -/
def rootGrammar (program : String) : Grammar where
  program := program
  description := "Render and match command-line arguments declared in a config file."
  options := [
    helpOption,
    { spellings := ["-v", "--verbose"], name := "verbose", arity := .switch
      help := "Enable debug logging for " ++ program ++ "." },
    { spellings := ["--log-mode"], name := "log_mode", arity := .one, choices := ["cli", "json"]
      help := "Console log format (default: $ARGMATCH_LOG_MODE or 'cli')." },
    { spellings := ["--version"], name := "version", arity := .switch
      help := "Show " ++ program ++ " version" }]
  group := some commandGroup
  epilog := some "Tip: put '--' before the tokens given to 'parse'."

/-- The name of a program together with a command. -/
def commandProgram (program command : String) : String :=
  String.ofList (Text.trim program.toList) ++ " " ++ command

/-- The place for the name of the definition to render. -/
def namePlace : Parameter where
  name := "name"
  arity := .one
  required := true
  help := "Name or alias of the definition to render"

/-- The place for the value to render. -/
def valuePlace : Parameter where
  name := "value"
  arity := .optional
  help := "Value for an option"

/-- The grammar of the command that renders. -/
def formatGrammar (program : String) : Grammar where
  program := commandProgram program "format"
  description := "Print the tokens a definition renders to, one per line."
  options := [helpOption, configOption]
  places := [namePlace, valuePlace]

/-- The option for a strict scan. -/
def strictOption : Parameter where
  spellings := ["--strict"]
  name := "strict"
  arity := .switch
  help := "Exit with status 2 if any token is left unmatched."

/-- The place for the tokens to scan. -/
def tokensPlace : Parameter where
  name := "tokens"
  arity := .rest
  required := true
  help := "Tokens to match, usually after '--'"

/-- The grammar of the command that scans. -/
def parseGrammar (program : String) : Grammar where
  program := commandProgram program "parse"
  description := "Run one batch match and show the results and leftover tokens."
  options := [helpOption, configOption, strictOption]
  places := [tokensPlace]

/-! ## Reading -/

/-- Reads the words of a command by its grammar. -/
def Grammar.readOr (g : Grammar) (argv : List String) : Except Halt Values :=
  (g.read argv).mapError fun stop => { grammar := g, stop }

/-- Reads the words behind the name of a command, and the words left over. -/
def readCommand (program name : String) (argv : List String) :
    Except Halt (Option Command × List String) := do
  match name with
  | "format" =>
    let v ← (formatGrammar program).readOr argv
    let command := .format ((v.word? "config").getD "") ((v.word? "name").getD "") (v.word? "value")
    return (some command, v.leftOver)
  | "parse" =>
    let v ← (parseGrammar program).readOr argv
    let tokens := (v.find? "tokens").getD []
    return (some (.parse ((v.word? "config").getD "") (v.has "strict") tokens), v.leftOver)
  | _ => return (none, [])

/-- Reads the command line of a program. -/
def Request.read (program : String) (argv : List String) : Except Halt Request := do
  let g := rootGrammar program
  let v ← g.readOr argv
  let (command, leftOver) ←
    match v.find? "command" with
    | some (name :: words) => readCommand program name words
    | _ => pure (none, [])
  match v.leftOver ++ leftOver with
  | [] =>
    return {
      verbose := v.has "verbose", logMode := v.word? "log_mode", version := v.has "version"
      command }
  | words => .error { grammar := g, stop := .fault (.unknown words) }

end ArgScan.CommandLine
