import ArgScan.Console.Cells
import ArgScan.Text.Blank

/-!
# Lines on a console

A text is set in lines of a number of cells. Lines break between words, and blanks stay at the end
of the line of the word before them as far as there is room. A word that is too long for any line is
either folded, that is cut into lines, or shortened, with an ellipsis at its end. Tabs go to the
next multiple of eight cells, and characters that would move the cursor are left out.
-/

namespace ArgScan.Console

/-- What becomes of a line that is too long. -/
inductive Overflow where
  /-- It goes on in further lines. -/
  | fold
  /-- It is cut and ends in an ellipsis. -/
  | ellipsis
deriving DecidableEq

/-- The layout of a text. -/
structure Layout where
  /-- The number of cells in a line. -/
  width : Nat
  /-- What becomes of a line that is too long. -/
  overflow : Overflow := .fold
  /-- Lines are filled up with blanks. -/
  filled : Bool := false
deriving DecidableEq

/-- The bell, and the characters that move the cursor within the line or to another line or page.
The line feed is none of them. -/
def controls : List Char := ['\x07', '\x08', '\x0b', '\x0c', '\r']

/-- The characters of a text that show. -/
def shown (cs : List Char) : List Char := cs.filter fun c => !controls.contains c

/-- A text cut at its line feeds. -/
def cutLines : List Char → List (List Char)
  | [] => [[]]
  | c :: rest =>
    let lines := cutLines rest
    if c = '\n' then [] :: lines else (c :: lines.headD []) :: lines.drop 1

/-- The distance between tab stops. -/
def tabStop : Nat := 8

/-- A line with blanks for tabs. `part` holds the characters since the last tab backwards, and
`place` the number of cells before them. -/
def expandTabs : Nat → List Char → List Char → List Char
  | _, part, [] => part.reverse
  | place, part, c :: rest =>
    if c = '\t' then
      let here := place + cells part.reverse
      let stop := (here / tabStop + 1) * tabStop
      part.reverse ++ List.replicate (stop - here) ' ' ++ expandTabs stop [] rest
    else expandTabs place (c :: part) rest

/-- A word with the blanks before and after it, and the rest of a text; `none` if there is no word.
-/
def nextWord? (cs : List Char) : Option (List Char × List Char) :=
  let start := cs.takeWhile Text.isBlank
  let rest := cs.dropWhile Text.isBlank
  let word := rest.takeWhile (!Text.isBlank ·)
  let rest := rest.dropWhile (!Text.isBlank ·)
  if word = [] then none
  else some (start ++ word ++ rest.takeWhile Text.isBlank, rest.dropWhile Text.isBlank)

/-- The words of a text, with the blanks around them. -/
def words : Nat → List Char → List (List Char)
  | 0, _ => []
  | steps + 1, cs =>
    match nextWord? cs with
    | some (word, rest) => word :: words steps rest
    | none => []

/-- Sets words in lines. `line` is the current line and `size` the number of its cells. -/
def setWords (layout : Layout) : List Char → Nat → List (List Char) → List (List Char)
  | line, _, [] => [line]
  | line, size, word :: rest =>
    let length := cells (Text.dropEndWhile Text.isBlank word)
    let before := if line = [] then [] else [line]
    if size + length ≤ layout.width then setWords layout (line ++ word) (size + cells word) rest
    else if layout.width < length && layout.overflow = .fold then
      let parts := chop layout.width word
      let last := parts.getLastD []
      before ++ parts.dropLast ++ setWords layout last (cells last) rest
    else before ++ setWords layout word (cells word) rest

/-- A line without the blanks at its end that are beyond the width, going by the number of
characters. -/
def dropExcess (width : Nat) (cs : List Char) : List Char :=
  let blanks := (cs.reverse.takeWhile Text.isBlank).length
  cs.take (cs.length - min blanks (cs.length - width))

/-- A line cut to the width, or filled up if that is asked for. -/
def fitLine (layout : Layout) (cs : List Char) : List Char :=
  let n := cells cs
  if layout.width < n then
    match layout.overflow with
    | .fold => fitCells layout.width cs
    | .ellipsis => fitCells (layout.width - 1) cs ++ ['…']
  else if layout.filled then cs ++ List.replicate (layout.width - n) ' '
  else cs

/-- The lines of a line of text that is set in a layout. -/
def breakLine (layout : Layout) (cs : List Char) : List (List Char) :=
  let cs := if cs.contains '\t' then expandTabs 0 [] cs else cs
  let lines :=
    match words (cs.length + 1) cs with
    | [] => [cs]
    | ws => setWords layout [] 0 ws
  lines.map fun line => fitLine layout (dropExcess layout.width line)

/-- The lines of a text that is set in a layout. -/
def setLines (layout : Layout) (cs : List Char) : List (List Char) :=
  (cutLines (shown cs)).flatMap (breakLine layout)

/-- The number of cells in a line of the console. -/
def consoleWidth : Nat := 80

/-- What the console shows of lines. -/
def ofLines (lines : List (List Char)) : String :=
  String.ofList (lines.flatMap fun line => line ++ ['\n'])

/-- What the console shows of a text. -/
def printed (cs : List Char) : String := ofLines (setLines { width := consoleWidth } cs)

end ArgScan.Console
