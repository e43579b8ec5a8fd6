import ArgScan.Datum
import ArgScan.Text.Base64
import ArgScan.Text.Blank
import ArgScan.Text.Fraction
import ArgScan.Yaml.Node

/-!
# Values of YAML nodes

Each node stands for a value, by its tag. A mapping is filled in order and a later entry replaces an
earlier one with the same key. Entries of other mappings that are merged in come before its own, so
that its own replace them; of several mappings merged in under one key the first has the last word.
-/

namespace ArgScan.Yaml

namespace Node

/-- The number that the digits of a text are in a base, with blanks around them and a sign allowed.
In decimal there must not be too many of them. -/
def numberInBase (base : Nat) (cs : List Char) : Except Error Int :=
  let number := Text.trim cs
  let digits := Tag.unsigned number
  let count := (digits.takeWhile fun c => (Text.readDigits? base [c]).isSome).length
  if base = 10 && Text.maxDigits < count then .error (.longInteger count)
  else
    match digits, Text.readDigits? base digits with
    | _ :: _, some n => .ok (if number.head? = some '-' then -n else n)
    | _, _ => .error (.noInteger base (String.ofList cs))

/-- The whole number that a text is. Underscores do not count. -/
def intOfText (cs : List Char) : Except Error Int := do
  let cs := Tag.plainDigits cs
  let sign : Int := if cs.head? = some '-' then -1 else 1
  let n ←
    match Tag.unsigned cs with
    | [] => .error .malformed
    | ['0'] => pure 0
    | '0' :: 'b' :: digits => numberInBase 2 digits
    | '0' :: 'x' :: digits => numberInBase 16 digits
    | '0' :: digits => numberInBase 8 ('0' :: digits)
    | digits =>
      (Tag.colonParts digits).foldlM
        (fun total part => (numberInBase 10 part).map (60 * total + ·)) 0
  return sign * n

/-- The unsigned number with a fraction that a text is. -/
def quotientOfText (cs : List Char) : Except Error Text.Fraction.Quotient :=
  match Text.Fraction.Written.read? cs with
  | some w => .ok w.quotient
  | none => .error (.noFraction (String.ofList cs))

/-- The text of the number with a fraction that a text is. Underscores and case do not count. -/
def fractionOfText (cs : List Char) : Except Error String := do
  let cs := (Tag.plainDigits cs).map Char.toLower
  let negative := cs.head? = some '-'
  let number := Tag.unsigned cs
  let sign := if negative then "-" else ""
  match String.ofList number with
  | "" => .error .malformed
  | ".inf" | "inf" | "infinity" => return sign ++ "inf"
  | ".nan" | "nan" => return "nan"
  | text =>
    if number.contains ':' then
      let parts ← (Tag.colonParts number).mapM quotientOfText
      let scaled := parts.reverse.zipIdx.map fun (q, place) =>
        Text.Fraction.roundQuotient (q.1 * Nat.pow 60 place, q.2)
      let total := scaled.foldl Text.Fraction.addRounded (0, 1)
      return Text.Fraction.textOfQuotient negative total.1 total.2
    else
      match Text.Fraction.Written.read? number with
      | some w => return w.text negative
      | none => .error (.noFraction text)

/-- The truth value that a word stands for, in any case. -/
def boolOfText (cs : List Char) : Except Error Bool :=
  match Tag.truthWords.lookup (String.ofList (cs.map Char.toLower)) with
  | some b => .ok b
  | none => .error .malformed

/-- The number that digits stand for. -/
def numberOf (digits : List Char) : Nat := (Text.readDigits? 10 digits).getD 0

/-- The distance from universal time that a zone is, in minutes. It is less than a day. -/
def distanceOf : Char × List Char × List Char → Except Error Int
  | (sign, hours, minutes) =>
    let minutes := 60 * numberOf hours + numberOf minutes
    let distance : Int := if sign = '-' then -minutes else minutes
    if 24 * 60 ≤ minutes then .error (.zone distance) else .ok distance

/-- The date or the moment that a text is. -/
def stampOfText (cs : List Char) : Except Error Stamp := do
  match WrittenStamp.read? cs with
  | none => .error .malformed
  | some w =>
    let (year, month, day) := w.day
    -- The zone is looked at before the numbers of the day and the time.
    let distance? ←
      match w.zone with
      | none => pure none
      | some none => pure (some 0)
      | some (some zone) => (distanceOf zone).map some
    let date ← (Date.ofNumbers (numberOf year) (numberOf month) (numberOf day)).mapError .calendar
    match w.time with
    | none => return .date date
    | some (hour, minute, second, places) =>
      let micro := numberOf ((places ++ List.replicate 6 '0').take 6)
      let clock ← (ClockTime.ofNumbers (numberOf hour) (numberOf minute) (numberOf second) micro
        ).mapError .calendar
      return .moment date clock distance?

/-- The value that a text stands for. -/
def scalarValue (tag : Tag) (text : String) : Except Error Datum :=
  let cs := text.toList
  match tag with
  | .str => .ok (.text text)
  | .null => .ok .null
  | .bool => (boolOfText cs).map .bool
  | .int => (intOfText cs).map .int
  | .float => (fractionOfText cs).map .decimal
  | .timestamp => (stampOfText cs).map .stamp
  | .binary =>
    match if cs.all (·.toNat < 0x80) then Text.Base64.read? cs else none with
    | some octets => .ok (.bytes octets)
    | none => .error .malformed
  | _ => .error .malformed

/-- The entries of a mapping in two groups, those that are merged in and its own. -/
structure Entries where
  /-- The entries merged in. -/
  merged : List (Datum × Datum) := []
  /-- Its own entries. -/
  own : List (Datum × Datum) := []

/-- All entries, the merged ones first. -/
def Entries.all (e : Entries) : List (Datum × Datum) := e.merged ++ e.own

mutual
/-- The value that a node stands for. -/
def toDatum : Node → Except Error Datum
  | enclosing isMapping => .ok (.enclosing isMapping)
  | scalar tag text => scalarValue tag text
  | sequence tag items =>
    match tag with
    | .seq => (toData items).map .list
    | .omap | .pairs => (toPairs items).map .list
    | _ => .error .malformed
  | mapping tag entries =>
    match tag with
    | .map => (toEntries entries).map fun e => .mapping (Datum.mappingOf e.all)
    | .set => (toEntries entries).map fun e =>
      .set ((Datum.mappingOf e.all).map Prod.fst)
    | _ => .error .malformed

/-- The values that nodes in a row stand for. -/
def toData : List Node → Except Error (List Datum)
  | [] => .ok []
  | n :: rest => do
    let d ← n.toDatum
    return d :: (← toData rest)

/-- The pairs that nodes in a row stand for, each a mapping of one entry. -/
def toPairs : List Node → Except Error (List Datum)
  | [] => .ok []
  | mapping _ [(key, value)] :: rest => do
    let key ← key.toDatum
    let value ← value.toDatum
    return .tuple [key, value] :: (← toPairs rest)
  | _ => .error .malformed

/-- The entries that the entries of a node stand for. -/
def toEntries : List (Node × Node) → Except Error Entries
  | [] => .ok {}
  | (key, value) :: rest => do
    if key.tag = .merge then
      let merged ← toMerged value
      let e ← toEntries rest
      return { e with merged := merged ++ e.merged }
    else
      let k ←
        match key with
        | scalar .value text => pure (.text text)
        | key => key.toDatum
      if !k.isKey then .error .malformed
      let v ← value.toDatum
      let e ← toEntries rest
      return { e with own := (k, v) :: e.own }

/-- The entries to merge in from a mapping, or from several in a sequence. -/
def toMerged : Node → Except Error (List (Datum × Datum))
  | mapping _ entries => (toEntries entries).map Entries.all
  | sequence _ items => toMergedAll items
  | _ => .error .malformed

/-- The entries to merge in from mappings in a row, those of the first last. -/
def toMergedAll : List Node → Except Error (List (Datum × Datum))
  | [] => .ok []
  | mapping _ entries :: rest => do
    let e ← toEntries entries
    return (← toMergedAll rest) ++ e.all
  | _ => .error .malformed
end

end Node

/-- The value of the only document in a text; without a document it is the absent value. -/
def readDocument (text : String) : Except Error Datum := do
  match ← Node.ofTokens? (← Token.ofText text.toList) with
  | some n => n.toDatum
  | none => return .null

end ArgScan.Yaml
