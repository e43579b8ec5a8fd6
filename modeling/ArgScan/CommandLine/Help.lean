import ArgScan.CommandLine.Grammar
import ArgScan.Text.Fill

/-!
# Help for command lines

The usage shows all options and places on one line, or on several lines in columns behind the name
of the program. The help shows the usage, what the program does, and a section for each group of
parameters, with a column for their help. Lines are at most 78 characters long.
-/

namespace ArgScan.CommandLine

/-- The length of a line. -/
def lineWidth : Nat := 78

/-- A row of blanks. -/
def blanks (n : Nat) : String := String.ofList (List.replicate n ' ')

/-! ## Usage -/

namespace Parameter

/-- How a place shows in the usage. -/
def placeUsage (p : Parameter) : List String :=
  match p.arity with
  | .switch => []
  | .one => [p.valueWord]
  | .optional => ["[" ++ p.valueWord ++ "]"]
  | .rest => ["..."]
  | .command => [p.valueWord, "..."]

/-- How a parameter shows in the usage, in parts that stay on one line. -/
def usage (p : Parameter) : List String :=
  match p.spellings with
  | [] => p.placeUsage
  | spelling :: _ =>
    let words := if p.arity = .switch then [spelling] else [spelling, p.valueWord]
    if p.required then words else ["[" ++ " ".intercalate words ++ "]"]

end Parameter

/-- Sets parts in lines, behind a margin. The first line has a given length already. -/
def setParts (margin : Nat) : Nat → List String → List String → List String
  | _, line, [] => if line = [] then [] else [blanks margin ++ " ".intercalate line]
  | length, line, part :: rest =>
    if lineWidth < length + 1 + part.length && line ≠ [] then
      (blanks margin ++ " ".intercalate line) ::
        setParts margin (margin - 1 + part.length + 1) [part] rest
    else setParts margin (length + part.length + 1) (line ++ [part]) rest

namespace Grammar

/-- The head of the usage. -/
def usageHead : String := "usage: "

/-- The lines of the usage that is too long for one line, without its head. The name of a program
that takes most of a line is on a line of its own. -/
def usageLines (g : Grammar) (options places : List String) : List String :=
  let head := usageHead.length
  if 4 * (head + g.program.length) ≤ 3 * lineWidth then
    let margin := head + g.program.length + 1
    match setParts margin (head - 1) [] (g.program :: options) with
    | first :: rest =>
      (first.drop margin).toString :: rest ++ setParts margin (margin - 1) [] places
    | [] => setParts margin (margin - 1) [] places
  else
    let together := setParts head (head - 1) [] (options ++ places)
    g.program ::
      if together.length ≤ 1 then together
      else setParts head (head - 1) [] options ++ setParts head (head - 1) [] places

/-- The usage. -/
def usage (g : Grammar) : String :=
  let options := g.options.flatMap Parameter.usage
  let places := g.allPlaces.flatMap Parameter.usage
  let words := (g.program :: options ++ places).filter (· ≠ "")
  let line := usageHead ++ " ".intercalate words
  if line.length ≤ lineWidth then line
  else usageHead ++ "\n".intercalate (g.usageLines options places)

/-! ## Help -/

/-- One parameter in the help. -/
structure HelpEntry where
  /-- The margin. -/
  margin : Nat
  /-- The parameter. -/
  head : String
  /-- The help for it. -/
  help : String

/-- How a parameter shows in the help. -/
def entryOf (p : Parameter) : HelpEntry where
  margin := 2
  head :=
    if p.isOption then
      ", ".intercalate (p.spellings.map fun s =>
        if p.arity = .switch then s else s ++ " " ++ p.valueWord)
    else p.valueWord
  help := p.help

/-- The lines of an entry, with its help in a column. -/
def HelpEntry.lines (column : Nat) (e : HelpEntry) : List String :=
  let head := blanks e.margin ++ e.head
  match Text.fill (lineWidth - column) e.help with
  | [] => [head]
  | first :: rest =>
    let rest := rest.map (blanks column ++ ·)
    if head.length + 2 ≤ column then
      (head ++ blanks (column - head.length) ++ first) :: rest
    else head :: (blanks column ++ first) :: rest

/-- A section of the help: its head, a text and entries. -/
structure Section where
  /-- The head. -/
  title : String
  /-- The text under the head, if there is one. -/
  text : Option String := none
  /-- The entries. -/
  entries : List HelpEntry

/-- The sections of the help. -/
def sections (g : Grammar) : List Section :=
  [{ title := "positional arguments", entries := g.places.map entryOf },
    { title := "options", entries := g.options.map entryOf }] ++
  (g.group.map fun group =>
    { title := group.title, text := some group.description
      entries := entryOf group.place :: group.commands.map fun (name, help) =>
        { margin := 4, head := name, help } }).toList

/-- The column of the help. -/
def helpColumn (g : Grammar) : Nat :=
  let lengths := g.sections.flatMap fun s => s.entries.map fun e => e.head.length + 2
  min (lengths.foldl max 0 + 2) 24

/-- The blocks of a section, which is left out if it is empty. -/
def Section.blocks (column : Nat) (s : Section) : List (List String) :=
  let entries := s.entries.flatMap (HelpEntry.lines column)
  match s.text with
  | none => if entries = [] then [] else [(s.title ++ ":") :: entries]
  | some text =>
    [(s.title ++ ":") :: (Text.fill (lineWidth - 4) text).map (blanks 2 ++ ·), entries]

/-- The help. -/
def help (g : Grammar) : String :=
  let blocks := [[g.usage], Text.fill lineWidth g.description] ++
    g.sections.flatMap (Section.blocks g.helpColumn) ++
    (g.epilog.map (Text.fill lineWidth)).toList
  "\n\n".intercalate (blocks.map ("\n".intercalate ·)) ++ "\n"

end Grammar

end ArgScan.CommandLine
