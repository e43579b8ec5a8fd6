import ArgScan.Text.Numeral
import ArgScan.Text.Printable

/-!
# Quoted literals

Messages show a text as a literal that can be read back: between quotes, with every character that
would not show as itself escaped. Single quotes are used unless the text holds a single quote and
no double one, so that as few quotes as possible need a backslash.
-/

namespace ArgScan.Text.Quoted

/-- The escape of an unprintable character, in the shortest of the three hexadecimal forms that
holds its code point. -/
def escape (c : Char) : List Char :=
  if c.toNat < 0x100 then '\\' :: 'x' :: paddedDigits 16 2 c.toNat
  else if c.toNat < 0x10000 then '\\' :: 'u' :: paddedDigits 16 4 c.toNat
  else '\\' :: 'U' :: paddedDigits 16 8 c.toNat

/-- The form of one character between quotes of the given kind. -/
def encodeChar (quote c : Char) : List Char :=
  if c = quote ∨ c = '\\' then ['\\', c]
  else if c = '\n' then ['\\', 'n']
  else if c = '\r' then ['\\', 'r']
  else if c = '\t' then ['\\', 't']
  else if isPrintable c then [c]
  else escape c

/-- The quote that a text is written between. -/
def quoteFor (cs : List Char) : Char :=
  if cs.contains '\'' && !cs.contains '"' then '"' else '\''

/-- The literal of a list of characters, quotes included. -/
def encode (cs : List Char) : List Char :=
  let quote := quoteFor cs
  quote :: cs.flatMap (encodeChar quote) ++ [quote]

end ArgScan.Text.Quoted

namespace ArgScan.Text

/-- The literal of a text, quotes included. -/
def quoted (s : String) : String :=
  String.ofList (Quoted.encode s.toList)

/-- The literal of a list of texts, in brackets. -/
def quotedList (texts : List String) : String :=
  "[" ++ ", ".intercalate (texts.map quoted) ++ "]"

end ArgScan.Text
