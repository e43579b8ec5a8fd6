import ArgScan.Yaml.Token.Block
import ArgScan.Yaml.Token.Mark
import ArgScan.Yaml.Token.Plain
import ArgScan.Yaml.Token.Quoted

/-!
# Scanning a YAML text into tokens

The scan goes through the text once. Outside of brackets the column of a token says which block
collections it closes and whether it opens one. Whether a token is the start of a key is known only
at the colon behind it, so the scan keeps a candidate for each level of brackets: the place in the
row of tokens where a key token has to go in if a colon follows. A candidate expires at the end of
its line or after 1024 characters. One that stands at the column of the current block must be a key,
and its expiry is an error.
-/

namespace ArgScan.Yaml

/-- A place where a key may have started. -/
structure KeyCandidate where
  /-- The number of tokens before it. -/
  place : Nat
  /-- Nothing but a key may stand there. -/
  required : Bool
  /-- The number of characters before it. -/
  index : Nat
  /-- The number of lines before it. -/
  line : Nat
  /-- Its column. -/
  column : Nat

/-- The greatest length of a key that has no key indicator. -/
def maxKeyLength : Nat := 1024

/-- The state of a scan. -/
structure Scanner where
  /-- The position in the text. -/
  cursor : Cursor
  /-- The tokens so far, the last one first. -/
  tokens : List Token := []
  /-- The column of the innermost block collection; it is below zero outside of all. -/
  indent : Int := -1
  /-- The columns of the collections around it. -/
  outer : List Int := []
  /-- A key without an indicator may start at the next token. -/
  mayStartKey : Bool := true
  /-- The candidate at the current level of brackets. -/
  candidate : Option KeyCandidate := none
  /-- The candidates at the levels around it, one for each open bracket. -/
  candidates : List (Option KeyCandidate) := []

namespace Scanner

/-- Whether the scan is within brackets. -/
def inFlow (s : Scanner) : Bool := !s.candidates.isEmpty

/-- Adds a token to the row. -/
def push (s : Scanner) (t : Token) : Scanner := { s with tokens := t :: s.tokens }

/-- Adds a token that takes a number of characters. -/
def pushPast (s : Scanner) (t : Token) (width : Nat) : Scanner :=
  { s with tokens := t :: s.tokens, cursor := s.cursor.advance width }

/-- Puts a token into the row behind a number of tokens. -/
def insertAt (s : Scanner) (place : Nat) (t : Token) : Scanner :=
  { s with tokens := s.tokens.insertIdx (s.tokens.length - place) t }

/-- Closes the block collections that lie deeper than a column. Brackets suspend layout. -/
def unwindTo (column : Int) : List Int → Scanner → Scanner
  | outer, s =>
    if s.inFlow || s.indent ≤ column then s
    else
      match outer with
      | [] => { s with indent := -1, outer := [] }
      | indent :: outer =>
        unwindTo column outer { s with indent, outer, tokens := .blockEnd :: s.tokens }

/-- Closes the block collections that lie deeper than a column. -/
def unwind (s : Scanner) (column : Int) : Scanner := unwindTo column s.outer s

/-- Opens a block collection at a column that lies deeper than the innermost one. -/
def indentAt (s : Scanner) (column : Nat) : Option Scanner :=
  if s.indent < column then some { s with indent := column, outer := s.indent :: s.outer }
  else none

/-- Whether a candidate has expired at a position. -/
def isStale (c : Cursor) (k : KeyCandidate) : Bool :=
  k.line ≠ c.line || k.index + maxKeyLength < c.index

/-- Drops the candidates that have expired. -/
def dropStale (s : Scanner) : Except Error Scanner :=
  let isStale? (k : Option KeyCandidate) := k.any (isStale s.cursor)
  if (s.candidate :: s.candidates).any fun k => isStale? k && k.any KeyCandidate.required then
    .error .malformed
  else
    let keep (k : Option KeyCandidate) := if isStale? k then none else k
    .ok { s with candidate := keep s.candidate, candidates := s.candidates.map keep }

/-- Drops the candidate at the current level, which must not be a required one. -/
def dropCandidate (s : Scanner) : Except Error Scanner :=
  if s.candidate.any KeyCandidate.required then .error .malformed
  else .ok { s with candidate := none }

/-- Notes the cursor as a candidate if a key may start there. -/
def noteCandidate (s : Scanner) : Except Error Scanner := do
  if s.mayStartKey then
    let s ← s.dropCandidate
    let c := s.cursor
    return { s with candidate := some {
      place := s.tokens.length
      required := !s.inFlow && s.indent = c.column
      index := c.index, line := c.line, column := c.column } }
  else return s

/-- The cursor at the next token, behind spaces, comments and line breaks, and whether it passed a
line break. -/
def gap : Nat → Bool → Cursor → Bool × Cursor
  | 0, broken, c => (broken, c)
  | steps + 1, broken, c =>
    let c := c.skipSpaces.skipComment
    match c.takeBreak with
    | ([], _) => (broken, c)
    | (_, c) => gap steps true c

/-- Goes to the next token. -/
def toToken (s : Scanner) : Scanner :=
  let c := s.cursor
  let c := if c.index = 0 && c.peek = byteOrderMark then c.next else c
  let (broken, c) := gap c.allowance false c
  { s with cursor := c, mayStartKey := s.mayStartKey || (broken && !s.inFlow) }

/-- A directive, which closes all block collections. -/
def fetchDirective (s : Scanner) : Except Error Scanner := do
  let s ← (s.unwind (-1)).dropCandidate
  let (token, cursor) ← Mark.directive s.cursor
  return { s with cursor, tokens := token :: s.tokens, mayStartKey := false }

/-- A document mark, which closes all block collections. -/
def fetchDocumentMark (s : Scanner) (t : Token) : Except Error Scanner := do
  let s ← (s.unwind (-1)).dropCandidate
  return { s.pushPast t 3 with mayStartKey := false }

/-- An opening bracket, which may itself start a key. -/
def fetchOpen (s : Scanner) (t : Token) : Except Error Scanner := do
  let s ← s.noteCandidate
  return { s.pushPast t 1 with
    mayStartKey := true, candidate := none, candidates := s.candidate :: s.candidates }

/-- A closing bracket. -/
def fetchClose (s : Scanner) (t : Token) : Except Error Scanner := do
  let s ← s.dropCandidate
  match s.candidates with
  | [] => .error .malformed
  | candidate :: candidates =>
    return { s.pushPast t 1 with mayStartKey := false, candidate, candidates }

/-- A comma within brackets. -/
def fetchFlowEntry (s : Scanner) : Except Error Scanner := do
  let s ← s.dropCandidate
  return { s.pushPast .flowEntry 1 with mayStartKey := true }

/-- Opens a block collection at the cursor if it lies deep enough. Outside of brackets, it may only
do so where a key may start. -/
def openBlock (s : Scanner) (t : Token) : Except Error Scanner :=
  if s.inFlow then .ok s
  else if !s.mayStartKey then .error .malformed
  else .ok (((s.indentAt s.cursor.column).map fun s => s.push t).getD s)

/-- The hyphen of an entry in a block sequence. -/
def fetchBlockEntry (s : Scanner) : Except Error Scanner := do
  let s ← (← s.openBlock .blockSequenceStart).dropCandidate
  return { s.pushPast .blockEntry 1 with mayStartKey := true }

/-- The indicator of a key. -/
def fetchKey (s : Scanner) : Except Error Scanner := do
  let s ← (← s.openBlock .blockMappingStart).dropCandidate
  return { s.pushPast .key 1 with mayStartKey := !s.inFlow }

/-- A colon. It makes a key of the candidate, if there is one, and else follows an empty key. -/
def fetchValue (s : Scanner) : Except Error Scanner := do
  match s.candidate with
  | some k =>
    let s := { s.insertAt k.place .key with candidate := none }
    let s :=
      if s.inFlow then s
      else ((s.indentAt k.column).map fun s => s.insertAt k.place .blockMappingStart).getD s
    return { s.pushPast .value 1 with mayStartKey := false }
  | none =>
    let s ← (← s.openBlock .blockMappingStart).dropCandidate
    return { s.pushPast .value 1 with mayStartKey := !s.inFlow }

/-- A token that may start a key, and after which none may start. -/
def fetchWith (s : Scanner) (read : Cursor → Except Error (Token × Cursor)) :
    Except Error Scanner := do
  let s ← s.noteCandidate
  let (token, cursor) ← read s.cursor
  return { s with cursor, tokens := token :: s.tokens, mayStartKey := false }

/-- A text in quotes. -/
def fetchQuoted (s : Scanner) : Except Error Scanner :=
  s.fetchWith fun c => (Quoted.scan c).map fun (text, c) => (.scalar text false, c)

/-- The text of a block. -/
def fetchBlock (s : Scanner) (folded : Bool) : Except Error Scanner := do
  let s ← s.dropCandidate
  let (text, cursor) ← Block.scan folded s.indent s.cursor
  return { s with cursor, tokens := .scalar text false :: s.tokens, mayStartKey := true }

/-- A plain text. A key may start behind it if a line break lies between. -/
def fetchPlain (s : Scanner) : Except Error Scanner := do
  let s ← s.noteCandidate
  let r := Plain.scan s.inFlow (s.indent + 1) s.cursor
  return { s with
    cursor := r.after, tokens := .scalar (String.ofList r.text) true :: s.tokens
    mayStartKey := r.broken }

/-- Whether a plain text may begin at the cursor. -/
def isAtPlain (s : Scanner) : Bool :=
  let ch := s.cursor.peek
  let isIndicator := "-?:,[]\x7b\x7d#&*!|>'\"%@\x60".toList.contains ch
  !(isBlankOrEnd ch || isIndicator) ||
    (!isBlankOrEnd (s.cursor.ahead 1) &&
      (ch = '-' || (!s.inFlow && (ch = '?' || ch = ':'))))

/-- The token at the cursor. -/
def fetchToken (s : Scanner) : Except Error Scanner :=
  let c := s.cursor
  let spaced := isBlankOrEnd (c.ahead 1)
  match c.peek with
  | '[' => s.fetchOpen .flowSequenceStart
  | '\x7b' => s.fetchOpen .flowMappingStart
  | ']' => s.fetchClose .flowSequenceEnd
  | '\x7d' => s.fetchClose .flowMappingEnd
  | ',' => s.fetchFlowEntry
  | '*' => s.fetchWith fun c => (Mark.name c.next).map fun (name, c) => (.alias name, c)
  | '&' => s.fetchWith fun c => (Mark.name c.next).map fun (name, c) => (.anchor name, c)
  | '!' => s.fetchWith Mark.tag
  | '\'' | '"' => s.fetchQuoted
  | ch =>
    if ch = '%' && c.column = 0 then s.fetchDirective
    else if c.column = 0 && c.isAtMark '-' then s.fetchDocumentMark .documentStart
    else if c.column = 0 && c.isAtMark '.' then s.fetchDocumentMark .documentEnd
    else if ch = '-' && spaced then s.fetchBlockEntry
    else if ch = '?' && (s.inFlow || spaced) then s.fetchKey
    else if ch = ':' && (s.inFlow || spaced) then s.fetchValue
    else if ch = '|' && !s.inFlow then s.fetchBlock false
    else if ch = '>' && !s.inFlow then s.fetchBlock true
    else if s.isAtPlain then s.fetchPlain
    else .error .malformed

/-- Repeats fetching tokens up to the end of the text. Each takes at least one character. -/
def run : Nat → Scanner → Except Error (List Token)
  | 0, _ => .error .malformed
  | steps + 1, s => do
    let s ← s.toToken.dropStale
    let s := s.unwind s.cursor.column
    if s.cursor.peek = endMark then
      let s ← (s.unwind (-1)).dropCandidate
      return s.tokens.reverse
    else run steps (← s.fetchToken)

end Scanner

/-- The tokens of a YAML text. -/
def Token.ofText (text : List Char) : Except Error (List Token) :=
  if text.all isAllowed then
    let cursor : Cursor := { rest := text }
    Scanner.run cursor.allowance { cursor }
  else .error .malformed

end ArgScan.Yaml
