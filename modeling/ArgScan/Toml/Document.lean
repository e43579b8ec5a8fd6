import ArgScan.Toml.Value

/-!
# TOML documents

A document is read line by line. A header names the table that the key lines after it add to. A
header in doubled brackets adds a table to an array of them. On the way to the table that a header
names, a table that is missing is made; one that was made in this way may still get a header of its
own, once. A document as a whole is a table.
-/

namespace ArgScan.Toml

/-! ## Headers -/

/-- Whether a name in a header may stand without quotes. -/
def isBareName (name : List Char) : Bool :=
  name ≠ [] && name.all fun c => c.isAlphanum || c = '_' || c = '-'

/-- The shortest row of parts, more than a number of them, that closes the quote which begins it,
and the number of parts in it. -/
def closeName (parts : List (List Char)) : Nat → Nat → Option (List Char × Nat)
  | 0, _ => none
  | more + 1, taken =>
    let name := Text.trim (joinWith ['.'] (parts.take (taken + 1)))
    if name.length ≠ 1 && name.head? = name.getLast? then some (name, taken + 1)
    else closeName parts more (taken + 1)

/-- The names of a header, from its parts between points. A quoted name may have points in it. -/
def readNames : Nat → List (List Char) → Except Error (List (List Char))
  | _, [] => .ok []
  | 0, _ => .error .malformed
  | steps + 1, part :: rest =>
    let part := Text.trim part
    if isQuote (part.headD ' ') then
      match closeName (part :: rest) (rest.length + 1) 0 with
      | some (name, taken) =>
        (readNames steps (rest.drop (taken - 1))).map fun names => (name.drop 1).dropLast :: names
      | none => .error .malformed
    else if isBareName part then (readNames steps rest).map (part :: ·)
    else .error .malformed

/-- A header: whether it adds to an array, and its names. -/
structure Header where
  /-- The header is in doubled brackets. -/
  isArray : Bool
  /-- The names on the way to the table. -/
  names : List (List Char)

/-- Reads the header that a line is, which begins with a bracket. -/
def readHeader (line : List Char) : Except Error Header := do
  let (isArray, close, inner) ← match line.drop 1 with
    | [] => .error .malformed
    | '[' :: rest => .ok (true, [']', ']'], rest)
    | rest => .ok (false, [']'], rest)
  let cuts := cutsBefore close inner
  let parts := cutFirst close cuts inner
  if parts.length < cuts + 1 || Text.trim (parts.getLastD []) ≠ [] then .error .malformed
  else
    let groups := cut '.' (joinWith close parts.dropLast)
    return { isArray, names := ← readNames groups.length groups }

/-! ## Places in a document -/

/-- A step from a value to one within it. -/
inductive Step where
  /-- To the value of a name in a table. -/
  | name (name : List Char)
  /-- To the last value of an array. -/
  | last

/-- Changes the value at a place within another, by a change that has a result of its own too. -/
def changeAt {α : Type} (change : Datum → Except Error (Datum × α)) :
    List Step → Datum → Except Error (Datum × α)
  | [], d => change d
  | .name name :: rest, .mapping t => do
    let key := String.ofList name
    match Datum.find? t key with
    | some inner =>
      let (inner, a) ← changeAt change rest inner
      return (.mapping (Datum.insert (.text key) inner t), a)
    | none => .error .notTable
  | .last :: rest, .list items => do
    match items.getLast? with
    | some inner =>
      let (inner, a) ← changeAt change rest inner
      return (.list (items.dropLast ++ [inner]), a)
    | none => .error .truncated
  | _, _ => .error .notTable

/-- A document being read, as seen from a value in it. -/
structure Visit where
  /-- The value, changed on the way. -/
  value : Datum
  /-- The place of the table that was gone to, seen from the value. -/
  place : List Step
  /-- The names of the tables that were made without a header. -/
  implicit : List (List Char)

/-- Goes to the last value of an array that a header in doubled brackets names on its way, and goes
on there. -/
def Visit.atLast (goOn : Datum → Except Error Visit) : Datum → Except Error Visit
  | .list items =>
    match items.getLast? with
    | some inner => do
      let v ← goOn inner
      return { v with value := .list (items.dropLast ++ [v.value]), place := .last :: v.place }
    | none => .error .truncated
  | .mapping t => goOn (.mapping t)
  | .text s => if s = "" then .error .truncated else goOn (.text s)
  | _ => .error .notTable

/-- Goes to the table that a header names, making what is missing. -/
def enter (isArray : Bool) : List (List Char) → List (List Char) → Datum → Except Error Visit
  | [], implicit, d => .ok { value := d, place := [], implicit }
  | name :: rest, implicit, d =>
    let key := String.ofList name
    let isLast := rest.isEmpty
    let fresh : Datum := if isLast && isArray then .list [.mapping []] else .mapping []
    -- Puts a value under the name and goes on in it.
    let goInto (t : Table) (implicit : List (List Char)) (inner : Datum) : Except Error Visit := do
      let v ←
        if isArray then Visit.atLast (enter isArray rest implicit) inner
        else enter isArray rest implicit inner
      return { v with
        value := .mapping (Datum.insert (.text key) v.value t), place := .name name :: v.place }
    if name = [] then .error .malformed
    else
      match d with
      | .mapping t =>
        match Datum.find? t key with
        | none => goInto t (if isLast then implicit else name :: implicit) fresh
        | some inner =>
          if !isLast then goInto t implicit inner
          else if implicit.contains name then
            if isArray then .error .malformed else goInto t (implicit.erase name) inner
          else if isArray then
            match inner with
            | .list items => goInto t implicit (.list (items ++ [.mapping []]))
            | _ => .error .notArray
          else .error .malformed
      | .list items =>
        match items.getLast? with
        | none => .error .truncated
        | some (.mapping t) => do
          let v ← goInto t implicit ((Datum.find? t key).getD fresh)
          return { v with value := .list (items.dropLast ++ [v.value]), place := .last :: v.place }
        | some _ => .error .notTable
      | .text s => if s = "" then .error .truncated else .error .notTable
      | _ => .error .notTable

/-! ## Lines -/

/-- A document read so far. -/
structure Document where
  /-- The document's table. -/
  root : Datum := .mapping []
  /-- The place of the table that key lines add to. -/
  place : List Step := []
  /-- The names of the tables that were made without a header. -/
  implicit : List (List Char) := []
  /-- The value that is not yet complete. -/
  pending : Option Pending := none

namespace Document

/-- Whether the blanks around the next line do not count. -/
def trimsNext (doc : Document) : Bool :=
  doc.pending.all fun p => p.joined || !p.text.contains '\n'

/-- Whether a line completes a value that began with a character. -/
def completes (opening : Char) (line : List Char) : Except Error Bool :=
  if opening = '[' then
    match line.getLast? with
    | some c => .ok (c = ']')
    | none => .error .truncated
  else .ok (2 < line.length && (line.reverse.take 3).all (· = opening))

/-- Changes the table that key lines add to, which may leave a value pending. -/
def change (doc : Document) (add : Datum → Except Error (Datum × Option Pending)) :
    Except Error Document := do
  let (root, pending) ← changeAt add doc.place doc.root
  return { doc with root, pending }

/-- Adds a line to the value that is not yet complete. -/
def addLine (doc : Document) (p : Pending) (line : List Char) : Except Error Document := do
  let text := p.text ++ line
  if ← completes (text.headD ' ') line then
    let value ← readValue (allowance text) true text
    doc.change fun
      | .mapping t => .ok (.mapping (setKey t p.key value), none)
      | _ => .error .notTable
  else return { doc with pending := some (pendingOf p.key text) }

/-- Reads one line. -/
def readLine (doc : Document) (line : List Char) : Except Error Document := do
  let line := if doc.trimsNext then Text.trim line else line
  match doc.pending with
  | some p => if line = [] && p.joined then return doc else doc.addLine p line
  | none =>
    match line.head? with
    | none => return doc
    | some '[' =>
      let header ← readHeader line
      let v ← enter header.isArray header.names doc.implicit doc.root
      return { doc with root := v.value, place := v.place, implicit := v.implicit }
    | some '\x7b' =>
      if line.getLast? = some '\x7d' then
        doc.change fun d => (readInline (allowance line) line d).map fun (d, _) => (d, none)
      else .error .malformed
    | some _ =>
      if line.contains '=' then doc.change (Toml.readLine (allowance line) line) else return doc

end Document

/-- The table that a text in TOML is. -/
def readDocument (text : String) : Except Error Datum := do
  let doc ← (← lines text.toList).foldlM Document.readLine {}
  return doc.root

end ArgScan.Toml
