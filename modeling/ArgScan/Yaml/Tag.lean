import ArgScan.Yaml.Cursor

/-!
# Tags of YAML nodes

A tag says what a node stands for. A node may give its tag; otherwise a collection is a sequence or
a mapping, a text in quotes is a text, and a plain text is what it looks like. The forms below are
those of version 1.1 of the language, where `yes` is a truth value, a leading zero makes a number
octal, and an exponent needs a point before it and a sign after the letter.
-/

namespace ArgScan.Yaml

/-- What a node stands for. -/
inductive Tag where
  | null
  | bool
  | int
  | float
  | binary
  | timestamp
  | omap
  | pairs
  | set
  | str
  | seq
  | map
  /-- The key under which other mappings are merged in. -/
  | merge
  /-- The key under which a mapping has a default value. -/
  | value
  /-- Any other tag. -/
  | other
deriving DecidableEq

namespace Tag

/-- The start of the full names of the tags that the language defines. -/
def standardStart : String := "tag:yaml.org,2002:"

/-- The names of the tags that the language defines. -/
def standardNames : List (String × Tag) :=
  [("null", null), ("bool", bool), ("int", int), ("float", float), ("binary", binary),
    ("timestamp", timestamp), ("omap", omap), ("pairs", pairs), ("set", set), ("str", str),
    ("seq", seq), ("map", map), ("merge", merge), ("value", value)]

/-- The tag with a full name. -/
def ofName (name : String) : Tag :=
  match standardNames.find? fun entry => standardStart ++ entry.1 = name with
  | some entry => entry.2
  | none => other

/-! ## Plain texts -/

/-- The words for truth and their meaning, in small letters. -/
def truthWords : List (String × Bool) :=
  [("yes", true), ("no", false), ("true", true), ("false", false), ("on", true), ("off", false)]

/-- A word as it is, with a capital at the start, and all in capitals. -/
def casings (word : String) : List (List Char) :=
  let cs := word.toList
  [cs, (cs.take 1).map Char.toUpper ++ cs.drop 1, cs.map Char.toUpper]

/-- Whether a text is a word for a truth value, in one of the three casings. -/
def looksBool (cs : List Char) : Bool :=
  truthWords.any fun entry => (casings entry.1).contains cs

/-- Whether a text stands for the absent value. -/
def looksNull (cs : List Char) : Bool :=
  cs = [] || cs = ['~'] || (casings "null").contains cs

/-- A text without the sign at its start. -/
def unsigned : List Char → List Char
  | c :: rest => if c = '-' ∨ c = '+' then rest else c :: rest
  | [] => []

/-- A text without the underscores in it. -/
def plainDigits (cs : List Char) : List Char := cs.filter (· ≠ '_')

/-- Whether all characters are digits in the base or underscores, and there is one at least. -/
def areDigits (base : Nat) (cs : List Char) : Bool :=
  cs ≠ [] && cs.all fun c => c = '_' || (Text.readDigits? base [c]).isSome

/-- Whether a text begins with a digit and goes on with digits and underscores. -/
def isWhole (cs : List Char) : Bool :=
  (cs.headD endMark).isDigit && areDigits 10 cs

/-- The parts of a text between colons. -/
def colonParts (cs : List Char) : List (List Char) :=
  cs.foldr (fun c parts =>
    if c = ':' then [] :: parts else ((c :: parts.headD []) :: parts.drop 1)) [[]]

/-- Whether a text is numbers below sixty, of one or two digits each, with colons between. -/
def areSixtieths : List Char → Bool
  | [a] => a.isDigit
  | a :: ':' :: rest => a.isDigit && areSixtieths rest
  | [a, b] => '0' ≤ a && a ≤ '5' && b.isDigit
  | a :: b :: ':' :: rest => '0' ≤ a && a ≤ '5' && b.isDigit && areSixtieths rest
  | _ => false

/-- What stands before the first colon, if the rest are numbers below sixty with colons before
them. -/
def leadOfSixtieths? (cs : List Char) : Option (List Char) :=
  let (lead, rest) := cs.span (· ≠ ':')
  match rest with
  | _ :: rest => if areSixtieths rest then some lead else none
  | [] => none

/-- Whether a text is a whole number. -/
def looksInt (cs : List Char) : Bool :=
  match unsigned cs with
  | ['0'] => true
  | '0' :: 'b' :: rest => areDigits 2 rest
  | '0' :: 'x' :: rest => areDigits 16 rest
  | '0' :: rest => areDigits 8 rest
  | cs => isWhole cs || (leadOfSixtieths? cs).any isWhole

/-- Whether a text is an exponent, with its letter and a sign, or empty. -/
def isExponent : List Char → Bool
  | [] => true
  | e :: s :: digits =>
    (e = 'e' || e = 'E') && (s = '-' || s = '+') && digits ≠ [] && digits.all Char.isDigit
  | _ => false

/-- Whether a text is a number with a point. -/
def looksFloat (cs : List Char) : Bool :=
  let isDigitOr (c : Char) := c.isDigit || c = '_'
  let number := unsigned cs
  let (whole, rest) := number.span (· ≠ '.')
  match rest with
  | [] => false
  | _ :: behind =>
    let (places, exponent) := behind.span isDigitOr
    if whole = [] then
      (number = cs && (places.headD endMark).isDigit && isExponent exponent) ||
        ["inf", "Inf", "INF"].any (fun w => w.toList = behind) ||
        (number = cs && ["nan", "NaN", "NAN"].any fun w => w.toList = behind)
    else
      (isWhole whole && isExponent exponent) ||
        (exponent = [] && (leadOfSixtieths? whole).any isWhole)

end Tag

/-! ## Dates and times -/

/-- A date or a moment as it is written, each number by its digits. -/
structure WrittenStamp where
  /-- The day: year, month and day of the month. -/
  day : List Char × List Char × List Char
  /-- The time, if there is one: hour, minute, second and the places after the point. -/
  time : Option (List Char × List Char × List Char × List Char) := none
  /-- The zone: the distance from universal time as its sign, hours and minutes, or none, which
  stands for universal time itself. Without a time there is no zone. -/
  zone : Option (Option (Char × List Char × List Char)) := none

/-- The digits at the start of a text, if there are at least `low` of them, and at most `high`. -/
def takeNumber? (low high : Nat) (cs : List Char) : Option (List Char × List Char) :=
  let digits := (cs.take high).takeWhile Char.isDigit
  if low ≤ digits.length then some (digits, cs.drop digits.length) else none

/-- The rest of a text behind a character. -/
def behind? (c : Char) : List Char → Option (List Char)
  | [] => none
  | d :: rest => if d = c then some rest else none

/-- The zone that a text is, if any. -/
def readZone? (cs : List Char) : Option (Option (Option (Char × List Char × List Char))) :=
  let cs' := cs.dropWhile fun c => c = ' ' || c = '\t'
  match cs, cs' with
  | [], _ => some none
  | _, ['Z'] => some (some none)
  | _, sign :: rest =>
    if sign = '-' ∨ sign = '+' then do
      let (hours, rest) ← takeNumber? 1 2 rest
      match rest with
      | [] => some (some (some (sign, hours, [])))
      | _ =>
        let (minutes, rest) ← takeNumber? 2 2 (← behind? ':' rest)
        if rest = [] then some (some (some (sign, hours, minutes))) else none
    else none
  | _, [] => none

/-- The time and the zone that a text is, behind the day. -/
def readTime? (day : List Char × List Char × List Char) (cs : List Char) : Option WrittenStamp := do
  let isSpace (c : Char) := c = ' ' || c = '\t'
  let rest ←
    match cs with
    | [] => none
    | c :: rest =>
      if c = 'T' ∨ c = 't' then some rest
      else if isSpace c then some (rest.dropWhile isSpace)
      else none
  let (hour, rest) ← takeNumber? 1 2 rest
  let (minute, rest) ← takeNumber? 2 2 (← behind? ':' rest)
  let (second, rest) ← takeNumber? 2 2 (← behind? ':' rest)
  let (places, rest) :=
    match rest with
    | '.' :: rest => rest.span Char.isDigit
    | rest => ([], rest)
  let zone ← readZone? rest
  return { day, time := some (hour, minute, second, places), zone }

/-- The date or moment that a text is, by the digits. A month and a day may have one digit. -/
def WrittenStamp.read? (cs : List Char) : Option WrittenStamp := do
  let (year, rest) ← takeNumber? 4 4 cs
  let (month, rest) ← takeNumber? 1 2 (← behind? '-' rest)
  let (day, rest) ← takeNumber? 1 2 (← behind? '-' rest)
  if rest = [] then some { day := (year, month, day) } else readTime? (year, month, day) rest

namespace Tag

/-- Whether a text is a date or a moment. A date alone has two digits for month and day. -/
def looksTimestamp (cs : List Char) : Bool :=
  (WrittenStamp.read? cs).any fun stamp => stamp.time.isSome || cs.length = 10

/-- The tag of a plain text without one. -/
def ofPlain (cs : List Char) : Tag :=
  if looksBool cs then bool
  else if looksFloat cs then float
  else if looksInt cs then int
  else if cs = ['<', '<'] then merge
  else if looksNull cs then null
  else if looksTimestamp cs then timestamp
  else if cs = ['='] then value
  else str

end Tag

end ArgScan.Yaml
