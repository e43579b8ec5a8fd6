import ArgScan.Yaml.Error

/-!
# Positions in a YAML text

A cursor is what remains of a text, with the line and the column that it has reached, since layout
carries meaning. Where nothing remains, the cursor shows the null character, which no YAML text
holds; so the end counts as a character of its own wherever characters are classed.
-/

namespace ArgScan.Yaml

/-- The character that stands for the end of the text. -/
def endMark : Char := '\x00'

/-- The byte order mark, which has no width. -/
def byteOrderMark : Char := '\ufeff'

/-- A character that ends a line. -/
def isBreak (c : Char) : Bool :=
  c = '\n' || c = '\r' || c = '\x85' || c = '\u2028' || c = '\u2029'

/-- A line's end or the text's. -/
def isBreakOrEnd (c : Char) : Bool := isBreak c || c = endMark

/-- A space, a line's end or the text's. -/
def isSpaceOrEnd (c : Char) : Bool := c = ' ' || isBreakOrEnd c

/-- White space, a line's end or the text's. -/
def isBlankOrEnd (c : Char) : Bool := c = '\t' || isSpaceOrEnd c

/-- A character of a name: an ASCII letter or digit, a hyphen or an underscore. -/
def isNameChar (c : Char) : Bool := c.isAlphanum || c = '-' || c = '_'

/-- A character that a YAML text may hold. -/
def isAllowed (c : Char) : Bool :=
  let n := c.toNat
  c = '\t' || c = '\n' || c = '\r' || (0x20 ≤ n && n ≤ 0x7E) || n == 0x85 ||
    (0xA0 ≤ n && n ≤ 0xFFFD) || 0x10000 ≤ n

/-- A position in a text. -/
structure Cursor where
  /-- What remains of the text. -/
  rest : List Char
  /-- The number of characters before. -/
  index : Nat := 0
  /-- The number of lines before. -/
  line : Nat := 0
  /-- The width of the line so far. -/
  column : Nat := 0

namespace Cursor

/-- The character a number of places ahead. -/
def ahead (c : Cursor) (places : Nat) : Char := c.rest.getD places endMark

/-- The next character. -/
def peek (c : Cursor) : Char := c.ahead 0

/-- The cursor behind the next character. A carriage return before a line feed does not end its line
yet. -/
def next (c : Cursor) : Cursor :=
  match c.rest with
  | [] => c
  | ch :: rest =>
    if isBreak ch && !(ch = '\r' && rest.head? = some '\n') then
      { rest, index := c.index + 1, line := c.line + 1, column := 0 }
    else
      { rest, index := c.index + 1, line := c.line,
        column := if ch = byteOrderMark then c.column else c.column + 1 }

/-- The cursor behind a number of characters. -/
def advance (c : Cursor) : Nat → Cursor
  | 0 => c
  | n + 1 => c.next.advance n

/-- The next characters that satisfy `p`. -/
def run (c : Cursor) (p : Char → Bool) : List Char := c.rest.takeWhile p

/-- The cursor behind the next characters that satisfy `p`. -/
def skip (c : Cursor) (p : Char → Bool) : Cursor := c.advance (c.run p).length

/-- The cursor behind the spaces ahead. -/
def skipSpaces (c : Cursor) : Cursor := c.skip (· = ' ')

/-- The cursor behind a comment, if one begins here. -/
def skipComment (c : Cursor) : Cursor :=
  if c.peek = '#' then c.skip fun ch => !isBreakOrEnd ch else c

/-- The line break ahead as a text keeps it, and the cursor behind it. Without a break ahead the
text is empty and the cursor stays. -/
def takeBreak (c : Cursor) : List Char × Cursor :=
  let ch := c.peek
  if ch = '\r' && c.ahead 1 = '\n' then (['\n'], c.advance 2)
  else if ch = '\n' || ch = '\r' || ch = '\x85' then (['\n'], c.next)
  else if ch = '\u2028' || ch = '\u2029' then ([ch], c.next)
  else ([], c)

/-- Whether the given mark of three characters and then white space or an end lie ahead. -/
def isAtMark (c : Cursor) (mark : Char) : Bool :=
  c.ahead 0 = mark && c.ahead 1 = mark && c.ahead 2 = mark && isBlankOrEnd (c.ahead 3)

/-- Whether the start or the end of a document lies ahead. -/
def isAtDocumentMark (c : Cursor) : Bool := c.isAtMark '-' || c.isAtMark '.'

/-- An allowance of steps for a loop that consumes at least one character in each. -/
def allowance (c : Cursor) : Nat := c.rest.length + 1

end Cursor

end ArgScan.Yaml
