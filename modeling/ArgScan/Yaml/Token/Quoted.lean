import ArgScan.Text.Numeral
import ArgScan.Yaml.Cursor

/-!
# Quoted texts

In single quotes, two quotes stand for one. In double quotes, a backslash begins an escape. In both,
a line break with the white space around it folds to a space, and further breaks stay.
-/

namespace ArgScan.Yaml.Quoted

/-- The characters with a short escape. -/
def shortEscapes : List (Char × Char) :=
  [('0', '\x00'), ('a', '\x07'), ('b', '\x08'), ('t', '\t'), ('\t', '\t'), ('n', '\n'),
    ('v', '\x0b'), ('f', '\x0c'), ('r', '\r'), ('e', '\x1b'), (' ', ' '), ('"', '"'),
    ('\\', '\\'), ('/', '/'), ('N', '\x85'), ('_', '\xa0'), ('L', '\u2028'), ('P', '\u2029')]

/-- The number of hexadecimal digits behind a letter that begins a long escape. -/
def escapeWidths : List (Char × Nat) := [('x', 2), ('u', 4), ('U', 8)]

/-- The character with a code point. -/
def charOfCode (code : Nat) : Except Error Char :=
  if 0x80000000 ≤ code then .error .beyondCharacters
  else if 0x110000 ≤ code then .error .noCharacter
  else if code.isValidChar then .ok (Char.ofNat code)
  else .error .malformed

/-- A character that ends a run of a quoted text's own characters. -/
def isSpecial (c : Char) : Bool :=
  c = '\'' || c = '"' || c = '\\' || isBlankOrEnd c

/-- The breaks ahead, with the white space before and between them dropped. A document mark must not
begin a line. -/
def breaks : Nat → List Char → Cursor → Except Error (List Char × Cursor)
  | 0, _, _ => .error .malformed
  | steps + 1, acc, c =>
    if c.isAtDocumentMark then .error .malformed
    else
      let c := c.skip fun ch => ch = ' ' || ch = '\t'
      if isBreak c.peek then
        let (lineBreak, c) := c.takeBreak
        breaks steps (acc ++ lineBreak) c
      else .ok (acc, c)

/-- The characters up to white space or the end of the text, escapes resolved. They are added to the
reversed characters before them. -/
def solid (double : Bool) : Nat → List Char → Cursor → Except Error (List Char × Cursor)
  | 0, _, _ => .error .malformed
  | steps + 1, acc, c =>
    let ch := c.peek
    if !isSpecial ch then solid double steps (ch :: acc) c.next
    else if !double && ch = '\'' && c.ahead 1 = '\'' then
      solid double steps ('\'' :: acc) (c.advance 2)
    else if (double && ch = '\'') || (!double && (ch = '"' || ch = '\\')) then
      solid double steps (ch :: acc) c.next
    else if double && ch = '\\' then
      let c := c.next
      match shortEscapes.lookup c.peek, escapeWidths.lookup c.peek with
      | some meaning, _ => solid double steps (meaning :: acc) c.next
      | none, some width => do
        let digits := (c.rest.drop 1).take width
        match if digits.length = width then Text.readDigits? 16 digits else none with
        | some code => solid double steps ((← charOfCode code) :: acc) (c.advance (width + 1))
        | none => .error .malformed
      | none, none => do
        if isBreak c.peek then
          let (folded, c) ← breaks c.allowance [] c.takeBreak.2
          solid double steps (folded.reverse ++ acc) c
        else .error .malformed
    else .ok (acc, c)

/-- The white space ahead, folded if it holds a line break. -/
def spaces (c : Cursor) : Except Error (List Char × Cursor) := do
  let isSpace (ch : Char) := ch = ' ' || ch = '\t'
  let after := c.skip isSpace
  if after.peek = endMark then .error .malformed
  else if isBreak after.peek then
    let (lineBreak, after) := after.takeBreak
    let (more, after) ← breaks after.allowance [] after
    if lineBreak ≠ ['\n'] then return (lineBreak ++ more, after)
    else if more = [] then return ([' '], after)
    else return (more, after)
  else return (c.run isSpace, after)

/-- The rest of a quoted text up to its closing quote, after the reversed characters before. -/
def close (quote : Char) : Nat → List Char → Cursor → Except Error (String × Cursor)
  | 0, _, _ => .error .malformed
  | steps + 1, acc, c => do
    if c.peek = quote then return (String.ofList acc.reverse, c.next)
    else
      let (space, c) ← spaces c
      let (acc, c) ← solid (quote = '"') c.allowance (space.reverse ++ acc) c
      close quote steps acc c

/-- The quoted text that begins at the cursor, and the cursor behind it. -/
def scan (c : Cursor) : Except Error (String × Cursor) := do
  let quote := c.peek
  let (acc, after) ← solid (quote = '"') c.allowance [] c.next
  close quote c.allowance acc after

end ArgScan.Yaml.Quoted
