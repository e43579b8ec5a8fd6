import ArgScan.Text.Numeral

/-!
# JSON strings

A text as a JSON string of ASCII characters alone. A character from outside ASCII becomes one
hexadecimal escape, or two for the halves of a surrogate pair if it lies above the first plane.
-/

namespace ArgScan.Text.JsonString

/-- The hexadecimal escape of a sixteen-bit unit. -/
def unitEscape (unit : Nat) : List Char :=
  '\\' :: 'u' :: paddedDigits 16 4 unit

/-- The form of one character within a JSON string. -/
def encodeChar (c : Char) : List Char :=
  if c = '"' ∨ c = '\\' then ['\\', c]
  else if c = '\n' then ['\\', 'n']
  else if c = '\r' then ['\\', 'r']
  else if c = '\t' then ['\\', 't']
  else if c = '\x08' then ['\\', 'b']
  else if c = '\x0c' then ['\\', 'f']
  else if ' ' ≤ c ∧ c ≤ '~' then [c]
  else if c.toNat < 0x10000 then unitEscape c.toNat
  else
    let offset := c.toNat - 0x10000
    unitEscape (0xD800 + offset / 0x400) ++ unitEscape (0xDC00 + offset % 0x400)

end ArgScan.Text.JsonString

namespace ArgScan.Text

/-- A text as a JSON string, quotes included. -/
def jsonQuoted (s : String) : String :=
  String.ofList ('"' :: s.toList.flatMap JsonString.encodeChar ++ ['"'])

end ArgScan.Text
