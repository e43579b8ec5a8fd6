import ArgScan.Yaml.Cursor
import ArgScan.Yaml.Token.Basic

/-!
# Names, tags and directives

The tokens of a YAML text that label nodes and documents: anchors and references to them, tags, and
the directives before a document.
-/

namespace ArgScan.Yaml.Mark

/-- The name of an anchor, and the cursor behind it. -/
def name (c : Cursor) : Except Error (String × Cursor) :=
  let chars := c.run isNameChar
  let after := c.advance chars.length
  let ch := after.peek
  let isEnd := isBlankOrEnd ch || ['?', ':', ',', ']', '\x7d', '%', '@', '\x60'].contains ch
  if chars = [] || !isEnd then .error .malformed else .ok (String.ofList chars, after)

/-- A character of a tag. -/
def isTagChar (c : Char) : Bool :=
  c.isAlphanum || "-;/?:@&=+$,_.!~*'()[]%".toList.contains c

/-- The bytes of consecutive percent escapes, and the cursor behind them. -/
def percentBytes : Nat → List UInt8 → Cursor → Except Error (List UInt8 × Cursor)
  | 0, _, _ => .error .malformed
  | steps + 1, acc, c =>
    if c.peek ≠ '%' then .ok (acc, c)
    else
      let digits := c.next.rest.take 2
      match if digits.length = 2 then Text.readDigits? 16 digits else none with
      | some code => percentBytes steps (acc ++ [UInt8.ofNat code]) (c.advance 3)
      | none => .error .malformed

/-- The rest of a tag, escapes resolved. -/
def tagRest : Nat → List Char → Cursor → Except Error (List Char × Cursor)
  | 0, _, _ => .error .malformed
  | steps + 1, acc, c => do
    let chars := c.run fun ch => isTagChar ch && ch ≠ '%'
    let c := c.advance chars.length
    let acc := acc ++ chars
    if c.peek = '%' then
      let (bytes, c) ← percentBytes c.allowance [] c
      match String.fromUTF8? (ByteArray.mk bytes.toArray) with
      | some s => tagRest steps (acc ++ s.toList) c
      | none => .error .malformed
    else if acc = [] then .error .malformed
    else return (acc, c)

/-- The characters of a tag, and the cursor behind them. -/
def tagChars (c : Cursor) : Except Error (String × Cursor) := do
  let (chars, c) ← tagRest c.allowance [] c
  return (String.ofList chars, c)

/-- The handle of a tag: an exclamation mark alone, or a name between two. -/
def handle (c : Cursor) : Except Error (String × Cursor) :=
  if c.peek ≠ '!' then .error .malformed
  else if c.ahead 1 = ' ' then .ok ("!", c.next)
  else
    let chars := c.next.run isNameChar
    let after := c.advance (chars.length + 1)
    if after.peek = '!' then .ok (String.ofList ('!' :: chars ++ ['!']), after.next)
    else .error .malformed

/-- The tag at the cursor, and the cursor behind it. -/
def tag (c : Cursor) : Except Error (Token × Cursor) := do
  let (token, c) ←
    if c.ahead 1 = '<' then do
      let (rest, c) ← tagChars (c.advance 2)
      if c.peek ≠ '>' then .error .malformed
      pure (Token.tag none rest, c.next)
    else if isBlankOrEnd (c.ahead 1) then pure (Token.tag none "!", c.next)
    else do
      let word := c.next.run fun ch => !isSpaceOrEnd ch
      let (h, c) ← if word.contains '!' then handle c else pure ("!", c.next)
      let (rest, c) ← tagChars c
      pure (Token.tag (some h) rest, c)
  if isSpaceOrEnd c.peek then return (token, c) else .error .malformed

/-- The number in a version, and the cursor behind it. -/
def versionNumber (c : Cursor) : Except Error (Nat × Cursor) :=
  let digits := c.run Char.isDigit
  match digits, Text.readDigits? 10 digits with
  | _ :: _, some n => .ok (n, c.advance digits.length)
  | _, _ => .error .malformed

/-- What a directive of the given name says, and the cursor behind it. -/
def directiveValue (name : String) (c : Cursor) : Except Error (Token × Cursor) := do
  if name = "YAML" then
    let (major, c) ← versionNumber c.skipSpaces
    if c.peek ≠ '.' then .error .malformed
    let (_, c) ← versionNumber c.next
    if isSpaceOrEnd c.peek then return (.version major, c) else .error .malformed
  else if name = "TAG" then
    let (h, c) ← handle c.skipSpaces
    if c.peek ≠ ' ' then .error .malformed
    let (start, c) ← tagChars c.skipSpaces
    if isSpaceOrEnd c.peek then return (.tagHandle h start, c) else .error .malformed
  else return (.directive, c.skip fun ch => !isBreakOrEnd ch)

/-- The directive at the cursor, and the cursor behind its line. -/
def directive (c : Cursor) : Except Error (Token × Cursor) := do
  let c := c.next
  let chars := c.run isNameChar
  let c := c.advance chars.length
  if chars = [] || !isSpaceOrEnd c.peek then .error .malformed
  let (token, c) ← directiveValue (String.ofList chars) c
  let c := c.skipSpaces.skipComment
  if isBreakOrEnd c.peek then return (token, c.takeBreak.2) else .error .malformed

end ArgScan.Yaml.Mark
