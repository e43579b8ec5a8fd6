import ArgScan.CommandLine.Grammar
import ArgScan.Text.Digit

/-!
# Words of command lines

Before any word is taken, each is looked at by itself. A word names an option if it is one of its
spellings, alone or with a value behind an equals sign, or the start of just one long spelling, or a
short spelling with more characters behind it. Other words that begin with a hyphen are options that
the grammar does not know, except for negative numbers and words with a blank in them. After a word
of two hyphens no word names an option.
-/

namespace ArgScan.CommandLine

/-- A value in the same word as an option. -/
structure Attached where
  /-- It stands behind an equals sign. -/
  byEquals : Bool
  /-- The value. -/
  text : List Char
deriving DecidableEq

/-- An option named by a word. -/
structure Occurrence where
  /-- The option. -/
  option : Parameter
  /-- The spelling that the word stands for. -/
  spelling : List Char
  /-- The value in the word. -/
  attached : Option Attached := none
deriving DecidableEq

/-- What a word is. -/
inductive WordKind where
  /-- A word that fills a place or is a value. -/
  | plain
  /-- The first word of two hyphens. -/
  | divider
  /-- An option that the grammar knows. -/
  | option (occurrence : Occurrence)
  /-- An option that it does not know. -/
  | unknown
deriving DecidableEq

/-- A word and what it is. -/
structure Word where
  /-- The word. -/
  text : String
  /-- What it is. -/
  kind : WordKind
deriving DecidableEq

/-- Whether a word names an option, known or not. -/
def Word.isOption (w : Word) : Bool :=
  match w.kind with
  | .option _ | .unknown => true
  | _ => false

/-- Whether a word fills a place or is a value. -/
def Word.isPlain (w : Word) : Bool := w.kind = .plain

/-- Whether a word is the divider. -/
def Word.isDivider (w : Word) : Bool := w.kind = .divider

/-- A word up to its first equals sign, and the value behind that. -/
def cutAtEquals (word : List Char) : List Char × Option Attached :=
  (word.takeWhile (· ≠ '='),
    match word.dropWhile (· ≠ '=') with
    | [] => none
    | _ :: text => some { byEquals := true, text })

/-- Whether a word is a negative number: digits behind a hyphen, with a point among them or before
them at most. -/
def isNegativeNumber (word : List Char) : Bool :=
  match word with
  | '-' :: number =>
    let number := if number.getLast? = some '\n' then number.dropLast else number
    let isDigits (cs : List Char) := cs ≠ [] && cs.all Text.isDecimalDigit
    match number.dropWhile Text.isDecimalDigit with
    | [] => isDigits number
    | '.' :: places => isDigits places
    | _ => false
  | _ => false

namespace Grammar

/-- The options that a word may stand for, if it is not one of their spellings. -/
def candidates (g : Grammar) (word : List Char) : List Occurrence :=
  match word with
  | '-' :: '-' :: _ =>
    let (start, attached) := cutAtEquals word
    g.spellings.filterMap fun (spelling, option) =>
      if start.isPrefixOf spelling then some { option, spelling, attached } else none
  | _ =>
    g.spellings.filterMap fun (spelling, option) =>
      if spelling = word.take 2 then
        some { option, spelling, attached := some { byEquals := false, text := word.drop 2 } }
      else if word.isPrefixOf spelling then some { option, spelling }
      else none

/-- What a word is by itself. -/
def kindOf (g : Grammar) (word : String) : Except Fault WordKind :=
  let cs := word.toList
  if cs.head? ≠ some '-' then .ok .plain
  else
    match g.option? cs with
    | some option => .ok (.option { option, spelling := cs })
    | none =>
      if cs = ['-'] then .ok .plain
      else
        match cutAtEquals cs with
        | (spelling, some attached) =>
          match g.option? spelling with
          | some option => .ok (.option { option, spelling, attached := some attached })
          | none => kindOfCandidates cs (g.candidates cs)
        | _ => kindOfCandidates cs (g.candidates cs)
where
  /-- What a word is by the options that it may stand for. -/
  kindOfCandidates (cs : List Char) : List Occurrence → Except Fault WordKind
    | [occurrence] => .ok (.option occurrence)
    | [] => .ok (if isNegativeNumber cs || cs.contains ' ' then .plain else .unknown)
    | several => .error (.ambiguous word (several.map fun o => String.ofList o.spelling))

/-- The words of a command line, and what they are. -/
def words (g : Grammar) : List String → Except Fault (List Word)
  | [] => .ok []
  | "--" :: rest => .ok ({ text := "--", kind := .divider } ::
      rest.map fun text => { text, kind := .plain })
  | text :: rest => do
    let kind ← g.kindOf text
    return { text, kind } :: (← g.words rest)

end Grammar

end ArgScan.CommandLine
