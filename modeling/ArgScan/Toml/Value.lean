import ArgScan.Toml.Scalar

/-!
# Values and key lines of TOML documents

A line of a document gives a key its value. The line is cut at the first equals sign outside of
quotes, unless the value behind it is none, in which case later ones are tried. A key with points in
it names a place in tables under the current one, which are made where they are missing. A value may
hold further key lines, between braces, and further values, between brackets; an array holds values
of one kind only.

The value of a line may be a long text that the line does not close. Such a value is left pending,
and the lines after it complete it.
-/

namespace ArgScan.Toml

/-- The entries of a table. -/
abbrev Table := List (Datum × Datum)

/-- A value that its line does not complete. -/
structure Pending where
  /-- The key that it is for. -/
  key : List Char
  /-- The value so far. -/
  text : List Char
  /-- The line ends in a backslash that joins the next line to it. -/
  joined : Bool

/-- The kind of a value in an array. -/
inductive ValueKind where
  | bool
  | text
  | array
  | table
  | time
  | date
  | int
  | float
deriving DecidableEq

/-- The kind of a value. -/
def ValueKind.of : Datum → ValueKind
  | .bool _ => bool
  | .text _ => text
  | .list _ => array
  | .mapping _ => table
  | .stamp (.time _) => time
  | .stamp _ => date
  | .int _ => int
  | _ => float

/-- Whether a table has a key. -/
def hasKey (t : Table) (key : List Char) : Bool :=
  (Datum.find? t (String.ofList key)).isSome

/-- The table with a key set. -/
def setKey (t : Table) (key : List Char) (value : Datum) : Table :=
  Datum.insert (.text (String.ofList key)) value t

/-! ## Keys -/

/-- The names of a key with points, and the last one apart. Names at the end that are empty do not
count. -/
def splitKey (key : List Char) : Except Error (List (List Char) × List Char) :=
  let levels :=
    if key.any isQuote then
      ((cutAtQuotes key).zipIdx.map fun (part, i) =>
        if i % 2 = 1 then [part] else (cut '.' part).map Text.trim).flatten
    else cut '.' key
  match (levels.reverse.dropWhile (· = [])) with
  | [] => .error .truncated
  | last :: before => .ok (before.reverse.filter (· ≠ []), Text.trim last)

/-- Changes the value under names, making the tables on the way that are missing. -/
def within (change : Datum → Except Error Datum) : List (List Char) → Datum → Except Error Datum
  | [], d => change d
  | name :: rest, .mapping t => do
    let key := String.ofList name
    let inner ← within change rest ((Datum.find? t key).getD (.mapping []))
    return .mapping (Datum.insert (.text key) inner t)
  | _ :: _, _ => .error .notTable

/-- The names and the last name of the key on the left of an equals sign. -/
def readKey (key : List Char) : Except Error (List (List Char) × List Char) :=
  if key.contains '.' then splitKey key
  else
    match key.head? with
    | none => .error .truncated
    | some q =>
      if isQuote q && key.getLast? = some q then
        (unescape ((key.drop 1).dropLast)).map fun name => ([], name)
      else .ok ([], key)

/-! ## Cutting lines and arrays -/

/-- Whether a text may stand behind the equals sign of a line: quoted or bracketed, behind white
space, a truth value, a number, or the start of a date or a time. -/
def mayBeValue (cs : List Char) : Bool :=
  match cs with
  | [] => true
  | c :: _ =>
    let word := Text.trim cs
    c = ' ' || c = '\t' || isQuote c || c = '[' || c = '\x7b' ||
      word = "true".toList || word = "false".toList || (readFraction? cs).isSome ||
      (readStamp? cs).isSome || (startOfTime? cs).isSome

/-- A line cut at an equals sign, into the key and the value, and whether the value is a strict
number. Further equals signs are tried until what is behind may be a value. -/
def cutLine (line : List Char) : Nat → Nat → Option (List Char) → Bool →
    Except Error (List Char × List Char × Bool)
  | 0, _, _, _ => .error .malformed
  | steps + 1, cuts, previous, strict =>
    let parts := cutFirst ['='] cuts line
    let value := parts.getLastD []
    let strict := strict && isStrictNumber value
    let value :=
      if previous = none && (value.headD ' ').isDigit then value.filter (· ≠ '_') else value
    if previous = some value then .error .malformed
    else if mayBeValue value then
      .ok (Text.trim (joinWith ['='] parts.dropLast), Text.trim value, strict)
    else cutLine line steps (cuts + 1) (some value) strict

/-- Whether a text begins and ends with the same quote, the last one not escaped. -/
def isBounded (cs : List Char) : Bool :=
  match cs with
  | [] => true
  | q :: rest =>
    if (q :: rest).getLast? ≠ some q then false
    else !((rest.dropLast.reverse.takeWhile (· = '\\')).length % 2 = 1)

/-- Whether a part of an array of texts goes on behind the comma: it is not bounded, or it opens a
triple of quotes that it does not close. -/
def isOpenText (part : List Char) : Bool :=
  let ab := Text.trim part
  let at? (i : Nat) := ab[i]?
  let behind? (i : Nat) := ab.reverse[i]?
  !isBounded ab ||
    (2 < ab.length && at? 1 = at? 0 && at? 2 = at? 0 && behind? 1 ≠ at? 0 && behind? 2 ≠ at? 0)

/-- A part of an array of texts with as many further parts as it takes to close it. -/
def closeText (part : List Char) : List (List Char) → Except Error (List Char × List (List Char))
  | [] => if isOpenText part then .error .truncated else .ok (part, [])
  | next :: rest =>
    if isOpenText part then closeText (part ++ ',' :: next) rest else .ok (part, next :: rest)

/-- The parts of an array of texts. The last part is not looked at. -/
def closeTexts : Nat → List (List Char) → Except Error (List (List Char))
  | 0, parts => .ok parts
  | _, [] => .ok []
  | _, [part] => .ok [part]
  | steps + 1, part :: rest => do
    let (part, rest) ← closeText part rest
    return part :: (← closeTexts steps rest)

/-- Whether an array begins with a quoted text. -/
def isTextArray (a : List Char) : Bool :=
  isQuote ((Text.trim ((a.drop 1).dropLast)).headD ' ')

/-- The tables in an array of them, cut at their closing braces. `start` is the place where the
current one begins, `place` the place looked at, and `depth` the number of open braces. -/
def cutTables (a : Array Char) : Nat → Nat → Nat → Int → Bool → List (List Char)
  | 0, _, _, _, _ => []
  | steps + 1, start, place, depth, inText =>
    if place + 1 < a.size then
      let c := a.getD place ' '
      let backslashes := ((a.toList.take place).reverse.takeWhile (· = '\\')).length
      let flips := isQuote c && !(inText && backslashes % 2 = 1)
      let inText := if flips then !inText else inText
      let depth := if !inText && c = '\x7b' then depth + 1 else depth
      if inText || c ≠ '\x7d' then cutTables a steps start (place + 1) depth inText
      else if 1 < depth then cutTables a steps start (place + 1) (depth - 1) inText
      else
        let table := (a.toList.take (place + 1)).drop start
        let skipped := ((a.toList.take (a.size - 1)).drop (place + 2)).takeWhile (· ≠ '\x7b')
        let next := min (place + 2 + skipped.length) (max (a.size - 1) (place + 2))
        table :: cutTables a steps next (next + 1) depth inText
    else []

/-- The parts of an array of arrays: cut at the commas outside of brackets. -/
def cutArrays : Int → List Char → List (List Char)
  | _, [] => [[]]
  | depth, c :: rest =>
    let depth := if c = '[' then depth + 1 else if c = ']' then depth - 1 else depth
    let parts := cutArrays depth rest
    if c = ',' && depth = 0 then [] :: parts else (c :: parts.headD []) :: parts.drop 1

/-- The parts of an array. -/
def arrayParts (a : List Char) : Except Error (List (List Char)) :=
  let a := Text.trim a
  let inner := (a.drop 1).dropLast
  if !inner.contains '[' || Text.trim (inner.takeWhile (· ≠ '[')) ≠ [] then
    let parts :=
      if (Text.trim inner).head? = some '\x7b' then
        let depth := if a[1]? = some '\x7b' then 1 else 0
        cutTables a.toArray (a.length + 1) 1 2 depth false
      else cut ',' inner
    if isTextArray a then closeTexts parts.length parts else .ok parts
  else .ok (cutArrays 0 inner)

/-- The key lines between braces: cut at the commas that have a value before them. -/
def inlineLines : List (List Char) → Option (List Char) → Except Error (List (List Char))
  | [], none => .ok []
  | [], some _ => .error .malformed
  | part :: rest, open? => do
    let part := match open? with
      | some before => before ++ ',' :: part
      | none => part
    if !part.contains '=' then .error .malformed
    let value := Text.trim ((part.dropWhile (· ≠ '=')).drop 1)
    match value.head?, value.getLast? with
    | some first, some last =>
      let isWhole :=
        (first = last && isQuote first) || first = '-' || first.isDigit ||
          value = "true".toList || value = "false".toList ||
          (first = '[' && last = ']') || (first = '\x7b' && last = '\x7d')
      if isWhole then return part :: (← inlineLines rest none)
      else inlineLines rest (some part)
    | _, _ => .error .truncated

/-! ## Long texts -/

/-- The last part of an array of texts, which may open a triple of quotes. -/
def lastText (parts : List (List Char)) : Except Error (List Char) :=
  match parts.reverse with
  | [] => .ok []
  | last :: before =>
    let rec go (last : List Char) : List (List Char) → Except Error (List Char)
      | [] => .ok last
      | part :: before =>
        match last with
        | [] => .error .truncated
        | c :: _ => if isQuote c then .ok last else go (part ++ ',' :: last) before
    go last before

/-- The place in a value at which a triple of quotes begins that the value does not close. -/
def openTriple? (v : List Char) : Except Error (Option Nat) := do
  if v.length < 3 then return none
  let isOpenArray :=
    v.head? = some '[' && (Text.trim v).getLast? ≠ some ']' && isTextArray v
  let p ← if isOpenArray then lastText (cut ',' (Text.trim (v.drop 1))) else pure v
  match p with
  | q :: rest =>
    if !isQuote q then return none
    else
      match rest with
      | a :: rest =>
        if a ≠ q then return none
        else
          match rest with
          | b :: _ =>
            let ends := p.reverse.take 3
            if b ≠ q || (5 < p.length && ends = [q, q, q]) then return none
            else return some (v.length - p.length)
          | [] => .error .truncated
      | [] => .error .truncated
  | [] => .error .truncated

/-- A long text that a value opens, as it is kept for the next lines. -/
def pendingOf (key v : List Char) : Pending :=
  if endsEscaped v then { key, text := v.dropLast, joined := true }
  else { key, text := v ++ ['\n'], joined := false }

/-! ## Values -/

mutual
/-- The value that a text is. `strict` says whether it may be a number by its zeros and
underscores. -/
def readValue : Nat → Bool → List Char → Except Error Datum
  | 0, _, _ => .error .malformed
  | steps + 1, strict, v =>
    let word := String.ofList (v.map Char.toLower)
    match v with
    | [] => .error .malformed
    | c :: _ =>
      if word = "true" ∨ word = "false" then
        if v = word.toList then .ok (.bool (word = "true")) else .error .malformed
      else if isQuote c then (textOfQuoted c v).map .text
      else if c = '[' then do
        let parts ← arrayParts v
        return .list (← readParts steps none parts)
      else if c = '\x7b' then do
        let (t, _) ← readInline steps v (.mapping [])
        return t
      else bareValue strict v

/-- The values of the parts of an array, which are of one kind. Empty parts do not count. -/
def readParts : Nat → Option ValueKind → List (List Char) → Except Error (List Datum)
  | 0, _, _ => .error .malformed
  | _, _, [] => .ok []
  | steps + 1, kind, part :: rest => do
    let part := Text.trim part
    if part = [] then readParts steps kind rest
    else
      let d ← readValue steps true part
      if kind.any (· ≠ .of d) then .error .malformed
      else return d :: (← readParts steps (some (.of d)) rest)

/-- Adds the key lines between braces to a table. A pending value ends them. -/
def readInline : Nat → List Char → Datum → Except Error (Datum × Option Pending)
  | 0, _, _ => .error .malformed
  | steps + 1, line, t => do
    let parts := cut ',' ((line.drop 1).dropLast)
    let parts := if parts.length = 1 && Text.trim (parts.headD []) = [] then [] else parts
    readLines steps (← inlineLines parts none) t

/-- Adds key lines to a table, up to one with a pending value. -/
def readLines : Nat → List (List Char) → Datum → Except Error (Datum × Option Pending)
  | 0, _, _ => .error .malformed
  | _, [], t => .ok (t, none)
  | steps + 1, line :: rest, t => do
    let (t, pending) ← readLine steps line t
    if pending.isSome then return (t, pending) else readLines steps rest t

/-- Adds a key line to a table. -/
def readLine : Nat → List Char → Datum → Except Error (Datum × Option Pending)
  | 0, _, _ => .error .malformed
  | steps + 1, line, t => do
    let (key, v, strict) ← cutLine line (line.length + 1) (cutsBefore ['='] line) none true
    let (names, name) ← readKey key
    -- The tables on the way are made, and checked, before the value is looked at.
    let t ← within .ok names t
    let pending := (← openTriple? v).map fun _ => pendingOf name v
    let value ← if pending.isSome then pure .null else readValue steps strict v
    let t ← within (fun
      | .mapping table =>
        if hasKey table name then .error .malformed
        else if pending.isSome then .ok (.mapping table)
        else .ok (.mapping (setKey table name value))
      | _ => .error .malformed) names t
    return (t, pending)
end

/-- An allowance of steps for reading a text, each of which takes it apart further. -/
def allowance (cs : List Char) : Nat := 4 * cs.length + 8

end ArgScan.Toml
