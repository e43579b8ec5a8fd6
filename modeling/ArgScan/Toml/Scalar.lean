import ArgScan.Datum
import ArgScan.Text.Fraction
import ArgScan.Toml.Quoted

/-!
# Numbers, dates and times in TOML values

A value without quotes or brackets is a truth value, a time, a date, a moment or a number, in this
order. Numbers may have underscores between their digits. Dates go by the places of the digits, not
by what stands between them.
-/

namespace ArgScan.Toml

/-! ## Numbers -/

/-- Whether underscores stand between digits alone. -/
def underscoresBetween : List Char → Bool
  | a :: '_' :: b :: rest => a.isAlphanum && b.isAlphanum && underscoresBetween (b :: rest)
  | ['_'] | [_, '_'] => false
  | '_' :: _ => false
  | _ :: rest => underscoresBetween rest
  | [] => true
termination_by cs => cs.length

/-- A text without its sign, and whether that is a minus. -/
def splitSign : List Char → Bool × List Char
  | '-' :: rest => (true, rest)
  | '+' :: rest => (false, rest)
  | cs => (false, cs)

/-- The text of the number with a fraction that a text is; whole numbers and the words for infinity
and no number count too. -/
def readFraction? (cs : List Char) : Option String :=
  let (negative, number) := splitSign (Text.trim cs)
  let word := String.ofList (number.map Char.toLower)
  if word = "inf" ∨ word = "infinity" then some (if negative then "-inf" else "inf")
  else if word = "nan" then some "nan"
  else if !underscoresBetween number then none
  else
    (Text.Fraction.Written.read? (number.filter (· ≠ '_'))).map fun w => w.text negative

/-- The whole number that the digits of a text are, in decimal, after a sign. -/
def readDecimal? (cs : List Char) : Option Int :=
  let (negative, digits) := splitSign (Text.trim cs)
  match digits, Text.readDigits? 10 (digits.filter (· ≠ '_')) with
  | _ :: _, some n =>
    if underscoresBetween digits then some (if negative then -n else n) else none
  | _, _ => none

/-- The whole number that a text is, in the base that its start names. A decimal number has no zeros
in front. -/
def readInteger? (cs : List Char) : Option Int :=
  let (negative, number) := splitSign (Text.trim cs)
  let inBase (base : Nat) (digits : List Char) : Option Nat :=
    if digits = [] then none else Text.readDigits? base digits
  let n? :=
    match number with
    | '0' :: c :: digits =>
      if c = 'x' ∨ c = 'X' then inBase 16 digits
      else if c = 'o' ∨ c = 'O' then inBase 8 digits
      else if c = 'b' ∨ c = 'B' then inBase 2 digits
      else if (c :: digits).all (· = '0') then some 0
      else none
    | digits => inBase 10 digits
  n?.map fun n => if negative then -n else n

/-- Whether the zeros in front and the underscores of a number stand where they may. -/
def isStrictNumber (cs : List Char) : Bool :=
  let n := Text.trim cs
  let hasPair (a b : Char) := 0 < occurrences [a, b] (n.length + 1) n
  let atEnds := n.head? = some '_' || n.getLast? = some '_'
  if n = [] || atEnds || hasPair '_' '.' || hasPair '.' '_' then false
  else if n.length = 1 then true
  else if n.head? = some '0' && n.getD 1 ' ' ∉ ['.', 'o', 'b', 'x'] then false
  else
    let signed := n.head? = some '+' || n.head? = some '-'
    let digits := if signed then n.drop 1 else n
    if signed && 1 < digits.length && digits.head? = some '0' && digits.getD 1 ' ' ≠ '.' then false
    else occurrences ['_', '_'] (digits.length + 1) digits = 0

/-- The number that a text is. -/
def numberValue (v : List Char) : Except Error Datum :=
  let (negative, v) := splitSign v
  let v := v.filter (· ≠ '_')
  let word := String.ofList (v.map Char.toLower)
  let ok? (d? : Option Datum) : Except Error Datum := d?.elim (.error .malformed) .ok
  let fraction? := (readFraction? v).map fun text =>
    Datum.decimal (if negative && text ≠ "nan" && text ≠ "0.0" then "-" ++ text else text)
  if v.contains '.' || (!v.contains 'x' && (v.contains 'e' || v.contains 'E')) then
    if v.getLast? = some '.' && (v.filter (· = '.')).length = 1 then .error .malformed
    else if !(v.headD ' ').isDigit then .error .malformed
    else ok? fraction?
  else if word = "inf" ∨ word = "nan" then ok? fraction?
  else ok? ((readInteger? v).map fun n => .int (if negative then -n else n))

/-! ## Dates and times -/

/-- The number that the characters between two places are. -/
def numberAt? (cs : List Char) (first last : Nat) : Option Int :=
  readDecimal? ((cs.take last).drop first)

/-- A number of a date or a time, which is none if it is negative. -/
def naturalAt? (cs : List Char) (first last : Nat) : Option Nat :=
  (numberAt? cs first last).bind fun n => if n < 0 then none else some n.toNat

/-- The distance from universal time that a text gives, in minutes. -/
def readZone? (cs : List Char) : Option Int :=
  if cs = ['Z'] then some 0
  else
    match numberAt? cs 1 3, numberAt? cs 4 6 with
    | some hours, some minutes =>
      let distance := 60 * hours + minutes
      some (if cs.head? = some '-' then -distance else distance)
    | _, _ => none

/-- The millionths of a second that digits behind the point are. -/
def microOf (places : List Char) : Option Nat :=
  (readDecimal? places).map fun n =>
    if places.length ≤ 6 then n.toNat * Nat.pow 10 (6 - places.length)
    else n.toNat / Nat.pow 10 (places.length - 6)

/-- What follows the seconds of a moment: millionths of a second and the zone. A zone that cannot be
read is none. -/
def readSubsecond (cs : List Char) : Nat × Option Int :=
  match cs with
  | '.' :: rest =>
    let last := rest.getLastD ' '
    let (places, zone) :=
      if last = 'Z' ∨ last = 'z' then (rest.dropLast, some ['Z'])
      else
        let mark := if rest.contains '+' then '+' else '-'
        let (places, zone) := rest.span (· ≠ mark)
        (places, if zone = [] then none else some zone)
    match zone with
    | none => ((microOf places).getD 0, none)
    | some zone =>
      match readZone? zone with
      | none => (0, none)
      | some minutes =>
        match microOf places with
        | some micro => (micro, some minutes)
        | none => (0, none)
  | [] => (0, none)
  | zone => (0, readZone? zone)

/-- The date or the moment that a text is. -/
def readStamp? (cs : List Char) : Option Stamp := do
  if !(cs.drop 1).contains '-' then none
  let (micro, zone) := readSubsecond (cs.drop 19)
  let year ← naturalAt? cs 0 4
  let month ← naturalAt? cs 5 7
  let day ← naturalAt? cs 8 10
  if cs.length = 10 then
    return .date (← (Date.ofNumbers year month day).toOption)
  else
    let hour ← naturalAt? cs 11 13
    let minute ← naturalAt? cs 14 16
    let second ← naturalAt? cs 17 19
    let date ← (Date.ofNumbers year month day).toOption
    return .moment date (← (ClockTime.ofNumbers hour minute second micro).toOption) zone

/-- The numbers of the time of day that a text begins with: hour, minute, second and the digits
behind the point. -/
def startOfTime? (cs : List Char) : Option (Nat × Nat × Nat × Nat) :=
  match cs with
  | a :: b :: ':' :: c :: d :: ':' :: e :: f :: rest => do
    let hour ← Text.readDigits? 10 [a, b]
    let minute ← Text.readDigits? 10 [c, d]
    let second ← Text.readDigits? 10 [e, f]
    let places :=
      match rest with
      | '.' :: rest => (rest.takeWhile Char.isDigit).take 6
      | _ => []
    let places := if 3 ≤ places.length then places else []
    return (hour, minute, second, (Text.readDigits? 10 places).getD 0)
  | _ => none

/-- The value that a text without quotes and brackets is. `strict` says whether it may be a number
by its zeros and underscores. -/
def bareValue (strict : Bool) (v : List Char) : Except Error Datum :=
  match startOfTime? v with
  | some (hour, minute, second, micro) =>
    match ClockTime.ofNumbers hour minute second micro with
    | .ok time => .ok (.stamp (.time time))
    | .error _ => .error .malformed
  | none =>
    match readStamp? v with
    | some stamp => .ok (.stamp stamp)
    | none => if strict then numberValue v else .error .malformed

end ArgScan.Toml
