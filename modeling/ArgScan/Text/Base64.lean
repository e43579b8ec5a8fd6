/-!
# Base 64

Bytes written as characters of six bits each. A reader passes over characters that are none of the
sixty-four, and a group of four may be cut short by padding, behind which nothing counts.
-/

namespace ArgScan.Text.Base64

/-- The six bits of a character. -/
def sextet? (c : Char) : Option Nat :=
  if 'A' ≤ c ∧ c ≤ 'Z' then some (c.toNat - 'A'.toNat)
  else if 'a' ≤ c ∧ c ≤ 'z' then some (c.toNat - 'a'.toNat + 26)
  else if '0' ≤ c ∧ c ≤ '9' then some (c.toNat - '0'.toNat + 52)
  else if c = '+' then some 62
  else if c = '/' then some 63
  else none

/-- Reads on, with the sextets of the current group so far and the number of padding characters
behind them. -/
def readFrom (group : List Nat) (pads : Nat) : List Char → Option (List UInt8)
  | [] => if group = [] then some [] else none
  | c :: rest =>
    if c = '=' then
      if 2 ≤ group.length ∧ 4 ≤ group.length + pads + 1 then some []
      else readFrom group (if 2 ≤ group.length then pads + 1 else pads) rest
    else
      match sextet? c, group with
      | none, _ => readFrom group pads rest
      | some d, [] => readFrom [d] 0 rest
      | some d, [a] => (readFrom [a, d] 0 rest).map (UInt8.ofNat (4 * a + d / 16) :: ·)
      | some d, [a, b] =>
        (readFrom [a, b, d] 0 rest).map (UInt8.ofNat (16 * (b % 16) + d / 4) :: ·)
      | some d, _ :: _ :: b :: _ => (readFrom [] 0 rest).map (UInt8.ofNat (64 * (b % 4) + d) :: ·)

/-- The bytes that a text stands for; `none` if its last group is not complete. -/
def read? (cs : List Char) : Option (List UInt8) := readFrom [] 0 cs

end ArgScan.Text.Base64
