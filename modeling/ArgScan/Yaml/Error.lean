import ArgScan.Calendar
import ArgScan.Text.Quoted

/-!
# Errors of YAML documents

A document is malformed, or one of its values is well formed but out of range. Where a malformed
document goes wrong is not kept.
-/

namespace ArgScan.Yaml

/-- Why a text is no YAML document with plain data. -/
inductive Error where
  /-- The text is no document, or a value does not suit its tag. -/
  | malformed
  /-- The numbers of a date or a time are no such thing. -/
  | calendar (error : CalendarError)
  /-- The distance of a time from universal time is a day or more, in minutes. -/
  | zone (distance : Int)
  /-- A text is no whole number in its base. -/
  | noInteger (base : Nat) (text : String)
  /-- A whole number has too many decimal digits. -/
  | longInteger (digits : Nat)
  /-- A text is no number with a fraction. -/
  | noFraction (text : String)
  /-- An escape names no character. -/
  | noCharacter
  /-- An escape has a number beyond those that are looked up as characters at all. -/
  | beyondCharacters
deriving DecidableEq

/-- The wording of the errors that have one. -/
def Error.message : Error → String
  | .malformed => "malformed YAML document"
  | .calendar error => error.message
  | .zone distance =>
    "offset must be a timedelta strictly between -timedelta(hours=24) and " ++
      "timedelta(hours=24), not " ++ spanLiteral distance ++ "."
  | .longInteger digits =>
    "Exceeds the limit (" ++ Text.decimal Text.maxDigits ++ " digits) for integer string " ++
      "conversion: value has " ++ Text.decimal digits ++ " digits; " ++
      "use sys.set_int_max_str_digits() to increase the limit"
  | .noInteger base text =>
    "invalid literal for int() with base " ++ Text.decimal base ++ ": " ++ Text.quoted text
  | .noFraction text => "could not convert string to float: " ++ Text.quoted text
  | .noCharacter => "chr() arg not in range(0x110000)"
  | .beyondCharacters => "Python int too large to convert to C int"

end ArgScan.Yaml
