import ArgScan.Datum
import ArgScan.Text.Blank
import ArgScan.Text.Letters

/-!
# Kinds of argument

A flag is present or not; an option carries a text. Settings name a kind by its own word or by one
of four others, in any case and with blanks around it.
-/

namespace ArgScan

/-- What an argument tells: that it is there, or a text. -/
inductive Kind where
  | flag
  | option
deriving DecidableEq

/-- Why a value names no kind. -/
inductive KindError where
  /-- The value is no text. -/
  | notText (found : Datum)
  /-- The text is the word of no kind. -/
  | unknown (word : String)

namespace Kind

/-- The word that stands for a kind. -/
def word : Kind → String
  | flag => "flag"
  | option => "option"

/-- The kinds, in the order in which messages list them. -/
def all : List Kind := [flag, option]

/-- Other words for the kinds. -/
def otherWords : List (String × Kind) :=
  [("switch", flag), ("bool", flag), ("value", option), ("store", option)]

/-- The kind that a text names. Case and the blanks around the word do not count. -/
def ofText? (s : String) : Option Kind :=
  let w := String.ofList ((Text.trim s.toList).map Text.lowerLetter)
  match all.find? fun k => k.word = w with
  | some k => some k
  | none => otherWords.lookup w

/-- The kind that a value names. -/
def ofDatum : Datum → Except KindError Kind
  | .text s =>
    match ofText? s with
    | some k => .ok k
    | none => .error (.unknown s)
  | d => .error (.notText d)

/-- A kind's own word names it. -/
theorem ofText?_word (k : Kind) : ofText? k.word = some k := by
  cases k <;> decide

end Kind

/-- The wording of a kind error. -/
def KindError.message : KindError → String
  | .notText found => found.wording "Invalid ArgKind: "
  | .unknown word =>
    "Invalid ArgKind: '" ++ word ++ "'. Must be one of: " ++
      ", ".intercalate (Kind.all.map Kind.word)

end ArgScan
