import ArgScan.Console.Lines

/-!
# Tables on a console

A table has a title over it, a row of heads, and rows of cells, with rules around and between the
columns. A column is as wide as its widest cell. If the table is wider than the console, the widest
columns give way first, down to the next narrower ones, until it fits. A cell is then set in lines
of its column, and a word that no line can hold is shortened.
-/

namespace ArgScan.Console

/-- A table of texts that show. The heads are narrow enough to stay on one line. -/
structure Table where
  /-- The title. -/
  title : List Char
  /-- The head of each column. -/
  heads : List (List Char)
  /-- The rows, each with a cell for every column. -/
  rows : List (List (List Char))

/-! ## Widths -/

/-- Whether a character ends a line when a text is measured. -/
def endsLine (c : Char) : Bool :=
  c = '\n' || ('\x1c' ≤ c && c ≤ '\x1e') || c = '\x85' || c = '\u2028' || c = '\u2029'

/-- The number of cells of the longest line of a text. -/
def longestLine (cs : List Char) : Nat :=
  let (longest, last) := cs.foldr (fun c (longest, line) =>
    if endsLine c then (max longest (cells line), []) else (longest, c :: line))
    ((0, []) : Nat × List Char)
  max longest (cells last)

/-- A quotient rounded to the nearest whole number, a half to the even one. -/
def roundedQuotient (n d : Nat) : Nat :=
  let twice := 2 * (n % d)
  if twice < d || (twice = d && n / d % 2 = 0) then n / d else n / d + 1

/-- Takes a total from the widths that are marked, in equal shares that are no more than a limit. -/
def takeShares (limit : Nat) : Nat → Nat → List (Nat × Bool) → List Nat
  | _, _, [] => []
  | total, shares, (width, false) :: rest => width :: takeShares limit total shares rest
  | total, shares, (width, true) :: rest =>
    let share := min limit (roundedQuotient total shares)
    (width - share) :: takeShares limit (total - share) (shares - 1) rest

/-- The sum of widths. -/
def total (widths : List Nat) : Nat := widths.foldl (· + ·) 0

/-- Takes from the widest columns, until the sum of the widths is no more than the room. -/
def narrow (room : Nat) : Nat → List Nat → List Nat
  | 0, widths => widths
  | steps + 1, widths =>
    let excess := total widths - room
    if excess = 0 then widths
    else
      let widest := widths.foldl max 0
      let next := (widths.filter (· ≠ widest)).foldl max 0
      let marked := widths.map fun width => (width, decide (width = widest))
      let limit := min excess (widest - next)
      narrow room steps (takeShares limit excess (widths.count widest) marked)

namespace Table

/-- The cells of each column, its head first. -/
def columns (t : Table) : List (List (List Char)) :=
  t.heads.zipIdx.map fun (head, i) => head :: t.rows.map fun row => row.getD i []

/-- The blanks at both sides of a cell. -/
def padding : Nat := 2

/-- The number of cells that rules take. -/
def ruleWidth (t : Table) : Nat := t.heads.length + 1

/-- The widths of the columns, with the blanks at both sides. -/
def widths (t : Table) : List Nat :=
  let room := consoleWidth - t.ruleWidth
  let natural := t.columns.map fun column =>
    min room ((column.map longestLine).foldl max 0 + padding)
  narrow room (total natural) natural

/-! ## Lines -/

/-- The characters of a rule between rows: at its left end, along it, between columns and at its
right end. -/
structure Rule where
  /-- At the left end. -/
  left : Char
  /-- Along the rule. -/
  along : Char
  /-- Between columns. -/
  between : Char
  /-- At the right end. -/
  right : Char

/-- A rule over columns. -/
def Rule.line (r : Rule) (widths : List Nat) : List Char :=
  let parts := widths.map fun width => List.replicate width r.along
  r.left :: [r.between].intercalate parts ++ [r.right]

/-- The lines of a row of cells, with a rule at both sides of each. -/
def rowLines (rule : Char) (widths : List Nat) (row : List (List Char)) : List (List Char) :=
  let cells := (widths.zip row).map fun (width, cell) =>
    let inner := width - padding
    (inner, setLines { width := inner, overflow := .ellipsis, filled := true } cell)
  let height := (cells.map fun cell => cell.2.length).foldl max 1
  (List.range height).map fun i =>
    let parts := cells.map fun (inner, lines) =>
      ' ' :: lines.getD i (List.replicate inner ' ') ++ [' ']
    rule :: [rule].intercalate parts ++ [rule]

/-- A text in the middle of a line. -/
def centred (width : Nat) (cs : List Char) : List Char :=
  let left := List.replicate ((width - cells cs) / 2) ' ' ++ cs
  left ++ List.replicate (width - cells left) ' '

/-- The lines of a table. -/
def lines (t : Table) : List (List Char) :=
  let widths := t.widths
  [centred (total widths + t.ruleWidth) t.title, Rule.line ⟨'┏', '━', '┳', '┓'⟩ widths] ++
    rowLines '┃' widths t.heads ++
    [Rule.line ⟨'┡', '━', '╇', '┩'⟩ widths] ++
    t.rows.flatMap (rowLines '│' widths) ++
    [Rule.line ⟨'└', '─', '┴', '┘'⟩ widths]

end Table

end ArgScan.Console
