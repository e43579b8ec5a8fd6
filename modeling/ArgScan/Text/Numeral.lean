/-!
# Numerals

Natural numbers and integers in decimal, and code points in lower-case hexadecimal of a fixed width.
Whole numbers of more than `maxDigits` digits are not converted to or from decimal: the time for
that would grow faster than the number of digits.
-/

namespace ArgScan.Text

/-- A natural number in decimal digits, without leading zeros. -/
def decimal (n : Nat) : String :=
  String.ofList (Nat.toDigits 10 n)

/-- An integer in decimal digits, after a minus sign if it is negative. -/
def signedDecimal : Int → String
  | .ofNat n => decimal n
  | .negSucc n => "-" ++ decimal (n + 1)

/-- The greatest number of decimal digits with which a whole number is written or read. -/
def maxDigits : Nat := 4300

/-- Whether a whole number is written in decimal: it does not have too many digits. -/
def isWritable (n : Int) : Bool := n.natAbs < Nat.pow 10 maxDigits

/-- The least natural number of too many digits. -/
def leastUnwritable : Int := .ofNat (Nat.pow 10 maxDigits)

/-- It is not written. -/
theorem isWritable_leastUnwritable : isWritable leastUnwritable = false := by
  simp only [isWritable, leastUnwritable, Int.natAbs_ofNat', Nat.lt_irrefl, decide_false]

/-- The refusal to write a whole number of too many digits. -/
def tooManyDigits : String :=
  "Exceeds the limit (" ++ decimal maxDigits ++ " digits) for integer string conversion; " ++
    "use sys.set_int_max_str_digits() to increase the limit"

/-- The digits of a number in the base, with zeros in front up to the width. -/
def paddedDigits (base width n : Nat) : List Char :=
  let digits := Nat.toDigits base n
  List.replicate (width - digits.length) '0' ++ digits

/-- The digits of a list in the base, most significant first; `none` if a character is no digit of
it. The digits above nine are letters of either case. -/
def readDigits? (base : Nat) (cs : List Char) : Option Nat :=
  cs.foldlM (m := Option) (fun n c =>
    let d? :=
      if '0' ≤ c ∧ c ≤ '9' then some (c.toNat - '0'.toNat)
      else if 'a' ≤ c ∧ c ≤ 'z' then some (c.toNat - 'a'.toNat + 10)
      else if 'A' ≤ c ∧ c ≤ 'Z' then some (c.toNat - 'A'.toNat + 10)
      else none
    d?.bind fun d => if d < base then some (base * n + d) else none) 0

end ArgScan.Text
