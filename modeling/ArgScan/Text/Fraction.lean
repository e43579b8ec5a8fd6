import ArgScan.Text.Numeral

/-!
# Numbers with a fraction

A number with a fraction or an exponent is kept as the binary number of 53 bits that is nearest to
it, and it is shown by the fewest decimal digits that lead back to that number. Both steps are exact
arithmetic on natural numbers. The first divides and rounds half to even. The second tries one
digit, two digits and so on: of the two multiples of the power of ten around the number, one must
lie in the interval of the reals that round to it, and if both do the nearer one is taken.
-/

namespace ArgScan.Text.Fraction

/-- A positive number `mantissa * 2 ^ exponent` of at most 53 bits. -/
structure Binary where
  /-- The bits. -/
  mantissa : Nat
  /-- The power of two that they count. -/
  exponent : Int
deriving DecidableEq

/-- The power of two of the smallest positive number. -/
def minExponent : Int := -1074

/-- The greatest power of two that a mantissa may count. -/
def maxExponent : Int := 971

/-- A natural power with an integer exponent that counts only where it is positive. -/
def powPos (base : Nat) (exponent : Int) : Nat := Nat.pow base exponent.toNat

/-- The quotient rounded to the nearest natural number, a half to the even one. -/
def divHalfEven (n d : Nat) : Nat :=
  let quotient := n / d
  let twice := 2 * (n % d)
  if twice < d then quotient
  else if d < twice then quotient + 1
  else quotient + quotient % 2

/-- The binary number nearest to a positive quotient; `none` if the quotient is too large. A result
without bits stands for zero. -/
def Binary.nearest? (n d : Nat) : Option Binary :=
  let magnitude : Int := Nat.log2 n - Nat.log2 d
  let scaled (q : Int) : Nat × Nat := (n * powPos 2 (-q), d * powPos 2 q)
  let low := max (magnitude - 53) minExponent
  let q := if (scaled low).1 / (scaled low).2 < Nat.pow 2 53 then low else low + 1
  let m := divHalfEven (scaled q).1 (scaled q).2
  let (m, q) := if m = Nat.pow 2 53 then (Nat.pow 2 52, q + 1) else (m, q)
  if maxExponent < q then none else some ⟨m, q⟩

/-- The number of decimal places to shift a quotient below one up until it is at least one, which
are searched for within a number of steps. -/
def shiftUp : Nat → Nat → Nat → Nat
  | 0, _, _ => 0
  | steps + 1, n, d => if d ≤ n then 0 else shiftUp steps (10 * n) d + 1

/-- The power of ten of the first digit of a binary number. -/
def Binary.magnitude (b : Binary) : Int :=
  let n := b.mantissa * powPos 2 b.exponent
  let d := powPos 2 (-b.exponent)
  if d ≤ n then (Nat.toDigits 10 (n / d)).length - 1 else -(shiftUp 400 n d : Nat)

/-- The multiple of the power of ten that leads back to a binary number, if there is one. -/
def Binary.multiple? (b : Binary) (place : Int) : Option Nat :=
  let q := b.exponent - 2
  let ten := powPos 10 place * powPos 2 (-q)
  let two := powPos 2 q * powPos 10 (-place)
  let gap := if b.mantissa = Nat.pow 2 52 ∧ minExponent < b.exponent then 1 else 2
  let below := (4 * b.mantissa - gap) * two
  let here := 4 * b.mantissa * two
  let above := (4 * b.mantissa + 2) * two
  let closed := b.mantissa % 2 = 0
  let k := here / ten
  let inside (x : Nat) : Bool :=
    if closed then below ≤ x && x ≤ above else below < x && x < above
  match inside (k * ten), inside ((k + 1) * ten) with
  | false, false => none
  | true, false => some k
  | false, true => some (k + 1)
  | true, true =>
    let left := here - k * ten
    let right := (k + 1) * ten - here
    if left < right then some k
    else if right < left then some (k + 1)
    else some (k + k % 2)

/-- The shortest digits of a binary number and the power of ten that they count, from a number of
digits on, tried within a number of steps. -/
def Binary.shortestFrom (b : Binary) : Nat → Int → Nat × Int
  | 0, place => ((b.multiple? place).getD 0, place)
  | steps + 1, place =>
    match b.multiple? place with
    | some k => (k, place)
    | none => b.shortestFrom steps (place - 1)

/-- The shortest digits of a binary number, without trailing zeros, and the number of digits that
stand before the point. -/
def Binary.digits (b : Binary) : List Char × Int :=
  let (k, place) := b.shortestFrom 17 b.magnitude
  let digits := Nat.toDigits 10 k
  ((digits.reverse.dropWhile (· = '0')).reverse, digits.length + place)

/-- Digits with a point at a place. The point stands among them while that takes at most sixteen
digits before it or three zeros behind it; else the first digit stands alone and an exponent
follows. -/
def layOut (digits : List Char) (point : Int) : List Char :=
  let zeros (n : Int) := List.replicate n.toNat '0'
  if -4 < point ∧ point ≤ 16 then
    if point ≤ 0 then '0' :: '.' :: zeros (-point) ++ digits
    else
      let whole := digits.take point.toNat ++ zeros (point - digits.length)
      let rest := digits.drop point.toNat
      whole ++ '.' :: (if rest = [] then ['0'] else rest)
  else
    let rest := digits.drop 1
    let exponent := point - 1
    digits.take 1 ++ (if rest = [] then [] else '.' :: rest) ++
      ['e', if exponent < 0 then '-' else '+'] ++ paddedDigits 10 2 exponent.natAbs

/-- The text of the binary number nearest to a quotient, with a sign. -/
def textOfQuotient (negative : Bool) (n d : Nat) : String :=
  let sign := if negative then "-" else ""
  if n = 0 then sign ++ "0.0"
  else
    match Binary.nearest? n d with
    | none => sign ++ "inf"
    | some b =>
      if b.mantissa = 0 then sign ++ "0.0"
      else
        let (digits, point) := b.digits
        sign ++ String.ofList (layOut digits point)

/-- The text of the binary number nearest to decimal digits times a power of ten. Powers far outside
the range are not worked out. -/
def textOfScientific (negative : Bool) (digits : Nat) (exponent : Int) : String :=
  let top := exponent + (Nat.toDigits 10 digits).length
  if digits = 0 ∨ top < -400 then textOfQuotient negative 0 1
  else if 400 < top then (if negative then "-" else "") ++ "inf"
  else textOfQuotient negative (digits * powPos 10 exponent) (powPos 10 (-exponent))

/-! ## Reading -/

/-- An unsigned number as it is written: its digits, and the power of ten that they count. -/
structure Written where
  /-- The digits, without the point. -/
  digits : Nat
  /-- The power of ten. -/
  exponent : Int
deriving DecidableEq

/-- The digits at the start of a text, their number, and the rest. -/
def takeDigits (cs : List Char) : List Char × List Char := cs.span Char.isDigit

/-- The exponent that a text is, without the letter before it. -/
def readExponent? (cs : List Char) : Option Int :=
  let (negative, digits) :=
    match cs with
    | '-' :: r => (true, r)
    | '+' :: r => (false, r)
    | r => (false, r)
  match digits, readDigits? 10 digits with
  | _ :: _, some n => some (if negative then -n else n)
  | _, _ => none

/-- The number that a text is: digits with at most one point among them, and perhaps an exponent. -/
def Written.read? (cs : List Char) : Option Written :=
  let (whole, rest) := takeDigits cs
  let (places, rest) :=
    match rest with
    | '.' :: r => takeDigits r
    | r => ([], r)
  let exponent? :=
    match rest with
    | [] => some 0
    | c :: r => if c = 'e' ∨ c = 'E' then readExponent? r else none
  match whole ++ places, readDigits? 10 (whole ++ places), exponent? with
  | _ :: _, some digits, some exponent => some ⟨digits, exponent - places.length⟩
  | _, _, _ => none

/-- The text of the number of bits nearest to a written number, with a sign. -/
def Written.text (w : Written) (negative : Bool) : String :=
  textOfScientific negative w.digits w.exponent

/-- A quotient as its numerator and its denominator. -/
abbrev Quotient := Nat × Nat

/-- The quotient that a number of 53 bits is, nearest to the given one. A number too large for that
stays as it is. -/
def roundQuotient (r : Quotient) : Quotient :=
  if r.1 = 0 then (0, 1)
  else
    match Binary.nearest? r.1 r.2 with
    | some b => (b.mantissa * powPos 2 b.exponent, powPos 2 (-b.exponent))
    | none => r

/-- The quotient that a written number is, rounded. Powers far outside the range are not worked
out. -/
def Written.quotient (w : Written) : Quotient :=
  if w.exponent < -400 then (0, 1)
  else roundQuotient (w.digits * powPos 10 (min w.exponent 400), powPos 10 (-w.exponent))

/-- The sum of two quotients, rounded. -/
def addRounded (a b : Quotient) : Quotient :=
  roundQuotient (a.1 * b.2 + b.1 * a.2, a.2 * b.2)

end ArgScan.Text.Fraction
