import ArgScan.Yaml.Cursor

/-!
# Plain texts

A plain text has no quotes. It ends where white space, a comment or an indicator ends it, and it may
run over several lines if these are indented deeply enough. A line break with the spaces around it
folds to a space, and further breaks stay.
-/

namespace ArgScan.Yaml.Plain

/-- A character that ends a plain text within brackets. -/
def isFlowEnd (c : Char) : Bool :=
  c = ',' || c = '?' || c = '[' || c = ']' || c = '\x7b' || c = '\x7d'

/-- Whether a colon is an indicator, by the character behind it. -/
def isValueEnd (flow : Bool) (c : Char) : Bool :=
  isBlankOrEnd c || (flow && isFlowEnd c && c ≠ '?')

/-- The characters of the word at the start of a text. -/
def word (flow : Bool) : List Char → List Char
  | [] => []
  | ch :: rest =>
    if isBlankOrEnd ch || (ch = ':' && isValueEnd flow (rest.headD endMark)) ||
        (flow && isFlowEnd ch) then []
    else ch :: word flow rest

/-- The spaces and breaks ahead: the breaks among them, or `none` if a document mark follows one,
and the cursor behind them. -/
def breaks : Nat → List Char → Cursor → Option (List Char) × Cursor
  | 0, acc, c => (some acc, c)
  | steps + 1, acc, c =>
    if c.peek = ' ' then breaks steps acc c.next
    else if isBreak c.peek then
      let (lineBreak, c) := c.takeBreak
      if c.isAtDocumentMark then (none, c) else breaks steps (acc ++ lineBreak) c
    else (some acc, c)

/-- What lies between two words. -/
structure Gap where
  /-- The characters that stand for it in the text; none if the text ends here. -/
  text : List Char
  /-- It holds a line break. -/
  broken : Bool
  /-- The cursor behind it. -/
  after : Cursor

/-- The gap at the cursor. -/
def gap (c : Cursor) : Gap :=
  let after := c.skipSpaces
  if isBreak after.peek then
    let (lineBreak, after) := after.takeBreak
    if after.isAtDocumentMark then { text := [], broken := true, after }
    else
      match breaks after.allowance [] after with
      | (none, after) => { text := [], broken := true, after }
      | (some more, after) =>
        let text :=
          if lineBreak ≠ ['\n'] then lineBreak ++ more else if more = [] then [' '] else more
        { text, broken := true, after }
  else { text := c.run (· = ' '), broken := false, after }

/-- A plain text that was read. -/
structure Result where
  /-- The text. -/
  text : List Char
  /-- A line break lies between the text and the cursor. -/
  broken : Bool
  /-- The cursor behind the text and the gap after it. -/
  after : Cursor

/-- The rest of a plain text, whose further lines must be indented by a number of columns. `soFar`
is what was read, with the gap behind it apart. -/
def words (flow : Bool) (indent : Int) : Nat → Result → List Char → Result
  | 0, soFar, _ => soFar
  | steps + 1, soFar, space =>
    if soFar.after.peek = '#' then soFar
    else
      let w := word flow soFar.after.rest
      if w = [] then soFar
      else
        let g := gap (soFar.after.advance w.length)
        let soFar : Result :=
          { text := soFar.text ++ space ++ w, broken := g.broken, after := g.after }
        let isLess := !flow && (g.after.column : Int) < indent
        if g.text = [] || g.after.peek = '#' || isLess then soFar
        else words flow indent steps soFar g.text

/-- The plain text that begins at the cursor. -/
def scan (flow : Bool) (indent : Int) (c : Cursor) : Result :=
  words flow indent c.allowance { text := [], broken := false, after := c } []

end ArgScan.Yaml.Plain
