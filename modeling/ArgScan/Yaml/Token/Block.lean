import ArgScan.Yaml.Cursor

/-!
# Block texts

A block text follows a header on lines of its own, which are indented by a fixed number of columns.
A literal one keeps its line breaks; in a folded one a single break between two lines that begin
with no white space becomes a space. The header says whether the breaks at the end are kept,
dropped, or cut down to one, and it may give the indentation, which the first line gives otherwise.
-/

namespace ArgScan.Yaml.Block

/-- What becomes of the line breaks at the end of a text. -/
inductive Chomping where
  | clip
  | strip
  | keep
deriving DecidableEq

/-- The chomping that a sign in the header asks for. -/
def chomping? (c : Char) : Option Chomping :=
  if c = '+' then some .keep else if c = '-' then some .strip else none

/-- The indentation that a digit in the header asks for. Zero is no indentation. -/
def increment? (c : Char) : Except Error (Option Nat) :=
  if c = '0' then .error .malformed
  else if c.isDigit then .ok (some (c.toNat - '0'.toNat))
  else .ok none

/-- The header behind its first character: chomping and indentation in either order. -/
def header (c : Cursor) : Except Error (Chomping × Option Nat × Cursor) := do
  let (chomping, increment, c) ←
    match chomping? c.peek with
    | some chomping => do
      let c := c.next
      match ← increment? c.peek with
      | some n => pure (chomping, some n, c.next)
      | none => pure (chomping, none, c)
    | none => do
      match ← increment? c.peek with
      | some n =>
        let c := c.next
        match chomping? c.peek with
        | some chomping => pure (chomping, some n, c.next)
        | none => pure (.clip, some n, c)
      | none => pure (.clip, none, c)
  if !isSpaceOrEnd c.peek then .error .malformed
  let c := c.skipSpaces.skipComment
  if !isBreakOrEnd c.peek then .error .malformed
  return (chomping, increment, c.takeBreak.2)

/-- The breaks before the first line that is not empty, and the widest indentation up to there. -/
def leading : Nat → List Char → Nat → Cursor → List Char × Nat × Cursor
  | 0, acc, width, c => (acc, width, c)
  | steps + 1, acc, width, c =>
    if c.peek = ' ' then leading steps acc (max width c.next.column) c.next
    else if isBreak c.peek then
      let (lineBreak, c) := c.takeBreak
      leading steps (acc ++ lineBreak) width c
    else (acc, width, c)

/-- The cursor behind the spaces ahead, up to a column. -/
def indentTo (column : Nat) (c : Cursor) : Cursor :=
  c.advance (min (c.run (· = ' ')).length (column - c.column))

/-- The breaks of empty lines, and the cursor at the indentation of the line after them. -/
def breaks (indent : Nat) : Nat → List Char → Cursor → List Char × Cursor
  | 0, acc, c => (acc, c)
  | steps + 1, acc, c =>
    if isBreak c.peek then
      let (lineBreak, c) := c.takeBreak
      breaks indent steps (acc ++ lineBreak) (indentTo indent c)
    else (acc, c)

/-- The lines of a block text. `acc` is the text so far, `empty` are the breaks of the empty lines
before the cursor. The result is the text without its last break, that break, the breaks of the
empty lines after it, and the cursor behind all. -/
def lines (folded : Bool) (indent : Nat) :
    Nat → List Char → List Char → List Char → Cursor →
      List Char × List Char × List Char × Cursor
  | 0, acc, lineBreak, empty, c => (acc, lineBreak, empty, c)
  | steps + 1, acc, _, empty, c =>
    let isWhite (ch : Char) := ch = ' ' || ch = '\t'
    let solid := !isWhite c.peek
    let line := c.run fun ch => !isBreakOrEnd ch
    let acc := acc ++ empty ++ line
    let (lineBreak, c) := (c.advance line.length).takeBreak
    let (empty, c) := breaks indent c.allowance [] (indentTo indent c)
    if c.column = indent && c.peek ≠ endMark then
      let joint :=
        if folded && lineBreak = ['\n'] && solid && !isWhite c.peek then
          if empty = [] then [' '] else []
        else lineBreak
      lines folded indent steps (acc ++ joint) [] empty c
    else (acc, lineBreak, empty, c)

/-- The block text whose header begins at the cursor, within an indentation. -/
def scan (folded : Bool) (outer : Int) (c : Cursor) : Except Error (String × Cursor) := do
  let (chomping, increment, c) ← header c.next
  let least := (max (outer + 1) 1).toNat
  let (indent, empty, c) :=
    match increment with
    | some n =>
      let indent := least + n - 1
      let (empty, c) := breaks indent c.allowance [] (indentTo indent c)
      (indent, empty, c)
    | none =>
      let (empty, width, c) := leading c.allowance [] 0 c
      (max least width, empty, c)
  let (text, lineBreak, empty, c) :=
    if c.column = indent && c.peek ≠ endMark then lines folded indent c.allowance [] [] empty c
    else ([], [], empty, c)
  let tail :=
    match chomping with
    | .strip => []
    | .clip => lineBreak
    | .keep => lineBreak ++ empty
  return (String.ofList (text ++ tail), c)

end ArgScan.Yaml.Block
