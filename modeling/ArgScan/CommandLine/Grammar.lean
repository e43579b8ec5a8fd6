import ArgScan.Text.Quoted

/-!
# Grammars of command lines

A program takes options, which are named by the words that begin with a hyphen, and places, which
the other words fill in order. A program with commands has a last place for the name of the command
and all words after it, which the command's own grammar reads.
-/

namespace ArgScan.CommandLine

/-- How many words an option or a place takes. -/
inductive Arity where
  /-- None: the option is a switch. -/
  | switch
  /-- One word. -/
  | one
  /-- One word or none. -/
  | optional
  /-- All words that are left, options among them. -/
  | rest
  /-- One word and all that are left. -/
  | command
deriving DecidableEq

/-- An option or a place. -/
structure Parameter where
  /-- The words that name an option. A place has none. -/
  spellings : List String := []
  /-- The name under which the value is kept. -/
  name : String
  /-- How many words it takes. -/
  arity : Arity
  /-- The words that it takes, if it does not take all. -/
  choices : List String := []
  /-- It must be given. -/
  required : Bool := false
  /-- It asks for help. -/
  asksHelp : Bool := false
  /-- The help for it. -/
  help : String := ""
deriving DecidableEq

namespace Parameter

/-- Whether a parameter is an option. -/
def isOption (p : Parameter) : Bool := p.spellings ≠ []

/-- The name of a parameter in messages. -/
def label (p : Parameter) : String :=
  if p.isOption then "/".intercalate p.spellings else p.name

/-- The word that stands for the value in the help. -/
def valueWord (p : Parameter) : String :=
  if p.choices ≠ [] then "\x7b" ++ ",".intercalate p.choices ++ "\x7d"
  else if p.isOption then String.ofList (p.name.toList.map Char.toUpper)
  else p.name

end Parameter

/-- The commands of a program. -/
structure CommandGroup where
  /-- The head of their section in the help. -/
  title : String
  /-- The text under the head. -/
  description : String
  /-- The name under which the command is kept. -/
  name : String
  /-- The commands, each with its help. -/
  commands : List (String × String)
deriving DecidableEq

/-- What a program takes on its command line. -/
structure Grammar where
  /-- The name of the program. -/
  program : String
  /-- What the program does. -/
  description : String
  /-- The options. -/
  options : List Parameter
  /-- The places, without that for a command. -/
  places : List Parameter := []
  /-- The commands. -/
  group : Option CommandGroup := none
  /-- The text at the end of the help. -/
  epilog : Option String := none
deriving DecidableEq

/-- The place for a command. -/
def CommandGroup.place (g : CommandGroup) : Parameter where
  name := g.name
  arity := .command
  choices := g.commands.map Prod.fst

namespace Grammar

/-- All places. -/
def allPlaces (g : Grammar) : List Parameter :=
  g.places ++ (g.group.map CommandGroup.place).toList

/-- All spellings of options, in order, with their options. -/
def spellings (g : Grammar) : List (List Char × Parameter) :=
  g.options.flatMap fun p => p.spellings.map fun s => (s.toList, p)

/-- The option with a spelling. -/
def option? (g : Grammar) (spelling : List Char) : Option Parameter := g.spellings.lookup spelling

end Grammar

/-! ## Faults -/

/-- What is wrong with a command line. -/
inductive Fault where
  /-- A word may stand for several options. -/
  | ambiguous (word : String) (spellings : List String)
  /-- No value follows an option that needs one. -/
  | noValue (parameter : Parameter)
  /-- A switch has a value. -/
  | unusedValue (parameter : Parameter) (value : String)
  /-- A value is none of the choices. -/
  | badChoice (parameter : Parameter) (value : String)
  /-- Parameters that must be given are not. -/
  | missing (parameters : List Parameter)
  /-- No option or place takes some of the words. -/
  | unknown (words : List String)
deriving DecidableEq

/-- The wording of a fault. -/
def Fault.message : Fault → String
  | ambiguous word spellings =>
    "ambiguous option: " ++ word ++ " could match " ++ ", ".intercalate spellings
  | noValue p => "argument " ++ p.label ++ ": expected one argument"
  | unusedValue p value =>
    "argument " ++ p.label ++ ": ignored explicit argument " ++ Text.quoted value
  | badChoice p value =>
    "argument " ++ p.label ++ ": invalid choice: " ++ Text.quoted value ++ " (choose from " ++
      ", ".intercalate (p.choices.map Text.quoted) ++ ")"
  | missing ps =>
    "the following arguments are required: " ++ ", ".intercalate (ps.map Parameter.label)
  | unknown words => "unrecognized arguments: " ++ " ".intercalate words

/-- Why a command line is not read to its end. -/
inductive Stop where
  /-- It asks for help. -/
  | help
  /-- It is at fault. -/
  | fault (fault : Fault)
deriving DecidableEq

end ArgScan.CommandLine
