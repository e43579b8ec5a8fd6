import ArgScan.Text.Alphanumeric
import ArgScan.Text.Blank
import ArgScan.Toml.Error

/-!
# Lines of a TOML document

Before a document is read line by line, its text is gone through once. Comments are blanked, and so
are line breaks within arrays; the quotes are paired; and each key is checked up to its equals sign.
What follows an opening triple of quotes on its line goes one place to the left when the line break
behind it is replaced by a quote, so that the first line break of a long text does not count.

The check looks back at characters already passed. A place before the start of the text is counted
from its end.
-/

namespace ArgScan.Toml

/-- Where the check is in a key. -/
inductive KeyPhase where
  /-- Not in a key. -/
  | outside
  /-- In a bare part of a key. -/
  | bare
  /-- Behind a part of a key. -/
  | behind
deriving DecidableEq

/-- The state of the check. -/
structure Survey where
  /-- The characters of the text, as changed so far. -/
  chars : Array Char
  /-- The number of open brackets of arrays. -/
  brackets : Int := 0
  /-- The current place is within quotes. -/
  inQuotes : Bool := false
  /-- The kind of quote that was opened last and not closed. -/
  quote : Option Char := none
  /-- The current place is within a triple of quotes. -/
  inTriple : Bool := false
  /-- The current place is within the header of an array's table. -/
  inArrayHeader : Bool := false
  /-- The current place is within the header of a table. -/
  inHeader : Bool := false
  /-- Nothing but white space was on the line so far. -/
  atLineStart : Bool := true
  /-- The current key has a point in it. -/
  dotted : Bool := false
  /-- The place in the current key. -/
  phase : KeyPhase := .outside

namespace Survey

/-- The character at a place, which is counted from the end if it lies before the start. -/
def char? (s : Survey) (place : Int) : Option Char :=
  s.chars[(if place < 0 then place + s.chars.size else place).toNat]?.filter fun _ =>
    0 ≤ place + s.chars.size

/-- Replaces the character at a place, which is counted from the end if it lies before the start. -/
def setChar (s : Survey) (place : Int) (c : Char) : Survey :=
  let i := if place < 0 then place + s.chars.size else place
  { s with chars := s.chars.setIfInBounds i.toNat c }

/-- The number of consecutive characters equal to `c` that stand before a place, up to a limit. -/
def countBefore (s : Survey) (c : Char) : Nat → Int → Nat
  | 0, _ => 0
  | limit + 1, place =>
    if s.char? (place - 1) = some c then s.countBefore c limit (place - 1) + 1 else 0

/-- Whether an odd number of backslashes stands before a place. -/
def isEscaped (s : Survey) (place : Nat) : Bool :=
  s.countBefore '\\' (2 * s.chars.size) place % 2 = 1

/-- Blanks a comment from a place on, and whether a line break ends it. -/
def blank (s : Survey) : Nat → Nat → Survey × Bool
  | 0, _ => (s, false)
  | steps + 1, place =>
    match s.chars[place]? with
    | none => (s, false)
    | some '\n' => (s, true)
    | some _ => (s.setChar place ' ').blank steps (place + 1)

/-- What the next character lets a key do after a point. -/
def afterPoint (s : Survey) (place : Nat) : Except Error Survey :=
  match s.chars[place + 1]? with
  | none => .error .truncated
  | some next =>
    if !Text.isBlank next && next ≠ '.' then .ok { s with phase := .bare } else .ok s

/-- Goes over one character of a key. The second part of the result says whether the character is
done with. -/
def keyChar (s : Survey) (place : Nat) (c : Char) : Except Error (Survey × Bool) := do
  let close : Except Error (Survey × Bool) :=
    if c = '=' then .ok ({ s with phase := .outside, dotted := false }, false)
    else .error .malformed
  if c = '\n' then .error .malformed
  else if s.inQuotes then
    if some c = s.quote && !(s.isEscaped place && 0 < place) then
      return ({ s with phase := .behind, inQuotes := false, quote := none }, true)
    else return (s, true)
  else
    match s.phase with
    | .bare =>
      if Text.isBlank c then return ({ s with phase := .behind }, true)
      else if c = '.' then return ({ s with dotted := true }, true)
      else if Text.isAlphanumeric c || c = '_' || c = '-' then return (s, true)
      else if s.dotted && s.char? (place - 1) = some '.' && (c = '"' || c = '\'') then
        return ({ s with inQuotes := true, quote := some c }, true)
      else close
    | .behind =>
      if Text.isBlank c then
        if s.dotted then return (← s.afterPoint place, true) else return (s, true)
      else if c = '.' then return (← { s with dotted := true }.afterPoint place, true)
      else close
    | .outside => close

/-- Pairs a single quote. -/
def singleQuote (s : Survey) (place : Nat) : Survey :=
  let s :=
    if s.countBefore '\'' 2 place = 2 then
      { s with inTriple := !s.inTriple, inQuotes := !s.inTriple }
    else { s with inQuotes := !s.inQuotes }
  { s with quote := if s.inQuotes then some '\'' else none }

/-- Pairs a double quote, unless it is escaped. -/
def doubleQuote (s : Survey) (place : Nat) : Survey :=
  let before := s.countBefore '"' 2 place
  let escaped :=
    before ≠ 1 && s.countBefore '\\' (2 * s.chars.size) ((place : Int) - before) % 2 = 1
  let s :=
    if escaped then s
    else if before = 2 then { s with inTriple := !s.inTriple, inQuotes := !s.inTriple }
    else { s with inQuotes := !s.inQuotes }
  { s with quote := if s.inQuotes then some '"' else none }

/-- Goes over an opening or closing bracket outside of quotes. -/
def bracket (s : Survey) (place : Nat) (c : Char) : Survey :=
  if c = '[' && !s.inQuotes && !s.inHeader && !s.inArrayHeader then
    if s.atLineStart then
      if s.chars[place + 1]? = some '[' then { s with inArrayHeader := true }
      else { s with inHeader := true }
    else { s with brackets := s.brackets + 1 }
  else if c = ']' && !s.inQuotes then
    if s.inHeader then { s with inHeader := false }
    else if s.inArrayHeader then
      if s.char? (place - 1) = some ']' then { s with inArrayHeader := false } else s
    else { s with brackets := s.brackets - 1 }
  else s

/-- Goes over a line break. -/
def lineBreak (s : Survey) (place : Nat) : Except Error Survey :=
  if s.inQuotes || s.inTriple then
    if !s.inTriple then .error .malformed
    else
      match s.char? (place - 1), s.char? (place - 2) with
      | some a, some b =>
        if (a = '\'' || a = '"') && b = a then
          let s := s.setChar place a
          match s.char? (place - 3) with
          | some c => .ok (if c = a then s.setChar (place - 3) ' ' else s)
          | none => .error .truncated
        else .ok s
      | _, _ => .error .truncated
  else if s.brackets ≠ 0 then .ok (s.setChar place ' ')
  else .ok { s with atLineStart := true }

/-- Goes over the first character of a line that is no white space. -/
def lineStart (s : Survey) (place : Nat) : Except Error Survey :=
  let c := s.chars[place]?.getD ' '
  if s.atLineStart && c ≠ ' ' && c ≠ '\t' then
    if s.inHeader || s.inArrayHeader then .ok { s with atLineStart := false }
    else if c = '=' then .error .malformed
    else .ok { s with atLineStart := false, phase := .bare }
  else .ok s

/-- Goes over one character. The second part of the result says whether the check goes on. -/
def char (s : Survey) (place : Nat) (c : Char) : Except Error (Survey × Bool) := do
  if c = '\r' && s.chars[place + 1]? = some '\n' then return (s.setChar place ' ', true)
  let (s, done) ← if s.phase = .outside then pure (s, false) else s.keyChar place c
  if done then return (s, true)
  let s := if c = '\'' && s.quote ≠ some '"' then s.singleQuote place else s
  let s := if c = '"' && s.quote ≠ some '\'' then s.doubleQuote place else s
  let isComment := c = '#' && !s.inQuotes && !s.inHeader && !s.inArrayHeader
  let (s, goesOn) := if isComment then s.blank s.chars.size place else (s, true)
  if !goesOn then return (s, false)
  let s := s.bracket place c
  if c = '\n' then return (← s.lineBreak place, true)
  else return (← s.lineStart place, true)

/-- Goes over the characters from a place on. -/
def run : Nat → Nat → Survey → Except Error Survey
  | 0, _, s => .ok s
  | steps + 1, place, s => do
    match s.chars[place]? with
    | none => return s
    | some c =>
      let (s, goesOn) ← s.char place c
      if goesOn then run steps (place + 1) s else return s

end Survey

/-- A text cut at each occurrence of a character. There is always one part at least. -/
def cut (separator : Char) (cs : List Char) : List (List Char) :=
  cs.foldr (fun c parts =>
    if c = separator then [] :: parts else ((c :: parts.headD []) :: parts.drop 1)) [[]]

/-- The lines of a document, gone through and mended. -/
def lines (text : List Char) : Except Error (List (List Char)) := do
  let s ← Survey.run text.length 0 { chars := text.toArray }
  if s.phase ≠ .outside || s.inQuotes then .error .malformed
  else return cut '\n' s.chars.toList

end ArgScan.Toml
