import ArgScan.Text.Numeral
import ArgScan.Toml.Lines

/-!
# Quoted texts in TOML values

A text is written between single quotes, where it stands as it is, or between double quotes, where a
backslash begins an escape. In both cases three quotes may stand for one. The characters between two
quotes of the other kind have no say in where a line is cut, so there is a way of cutting at quotes.
-/

namespace ArgScan.Toml

/-- Whether a character is a quote. -/
def isQuote (c : Char) : Bool := c = '"' || c = '\''

/-- The number of occurrences of a text in another, none overlapping. -/
def occurrences (part : List Char) : Nat → List Char → Nat
  | 0, _ => 0
  | steps + 1, cs =>
    match part.isPrefixOf? cs with
    | some rest => if part = [] then 0 else occurrences part steps rest + 1
    | none =>
      match cs with
      | [] => 0
      | _ :: rest => occurrences part steps rest

/-- A text cut at the first occurrences of a separator, up to a number of cuts. -/
def cutAt (separator : List Char) : Nat → Nat → List Char → List (List Char)
  | 0, _, cs => [cs]
  | _, 0, cs => [cs]
  | steps + 1, cuts + 1, cs =>
    match separator.isPrefixOf? cs with
    | some rest => [] :: cutAt separator steps cuts rest
    | none =>
      match cs with
      | [] => [[]]
      | c :: rest =>
        let parts := cutAt separator steps (cuts + 1) rest
        (c :: parts.headD []) :: parts.drop 1

/-- A text cut at the first occurrences of a separator that is not empty. -/
def cutFirst (separator : List Char) (cuts : Nat) (cs : List Char) : List (List Char) :=
  cutAt separator (cs.length + 1) cuts cs

/-- Parts with a separator between them. -/
def joinWith (separator : List Char) (parts : List (List Char)) : List Char :=
  separator.intercalate parts

/-- Completes single quotes that hold double ones: parts are taken over from the second list until
the number of parts in the first is odd. -/
def balance : Nat → List (List Char) → List (List Char) → List (List Char) × List (List Char)
  | 0, singles, doubles => (singles, doubles)
  | steps + 1, singles, doubles =>
    if singles.length % 2 = 0 then
      match doubles with
      | [] => (singles, [])
      | d :: rest =>
        let last := singles.getLastD [] ++ '"' :: d
        balance steps (singles.dropLast ++ cut '\'' last) rest
    else (singles, doubles)

/-- A line cut at its quotes. Parts outside of quotes and parts within them take turns. -/
def cutAtQuotes (line : List Char) : List (List Char) :=
  let doubles := cut '"' line
  let (singles, doubles) :=
    if 1 < doubles.length && (doubles.headD []).contains '\'' then
      balance line.length (cut '\'' (doubles.headD [])) (doubles.drop 1)
    else ([], doubles)
  match doubles with
  | [] => singles
  | d :: rest => singles ++ cut '\'' d ++ rest

/-- One more than the number of times that a separator stands within quotes before it first stands
outside of them. -/
def cutsBefore (separator : List Char) (line : List Char) : Nat :=
  let count (part : List Char) := occurrences separator (part.length + 1) part
  let rec go (quoted : Bool) : List (List Char) → Nat
    | [] => 1
    | part :: rest =>
      if !quoted && 0 < count part then 1 else count part + go (!quoted) rest
  go false (cutAtQuotes line)

/-! ## Escapes -/

/-- The characters with a short escape. -/
def shortEscapes : List (Char × Char) :=
  [('0', '\x00'), ('b', '\x08'), ('f', '\x0c'), ('n', '\n'), ('r', '\r'), ('t', '\t'), ('"', '"')]

/-- Resolves the short escapes of a text. Long ones are resolved before, and what is left of them
stays. -/
def unescape : List Char → Except Error (List Char)
  | '\\' :: c :: rest =>
    match shortEscapes.lookup c with
    | some meaning => (unescape rest).map (meaning :: ·)
    | none =>
      if c = '\\' then (unescape rest).map ('\\' :: ·)
      else if c = 'u' ∨ c = 'U' then (unescape rest).map fun r => '\\' :: c :: r
      else .error .malformed
  | c :: rest => (unescape rest).map (c :: ·)
  | [] => .ok []

/-- Whether an odd number of backslashes ends a text. -/
def endsEscaped (cs : List Char) : Bool :=
  (cs.reverse.takeWhile (· = '\\')).length % 2 = 1

/-- The character of a long escape whose digits begin a text, and the text behind them. -/
def longEscape (width : Nat) (cs : List Char) : Except Error (List Char) := do
  let digits := (cs.take width).map fun c => if c.isUpper then c.toLower else c
  let isHex (c : Char) := c.isDigit || ('a' ≤ c && c ≤ 'f')
  let isSurrogate :=
    digits.head? = some 'd' && (digits.drop 1).head?.all fun c => !('0' ≤ c && c ≤ '7')
  -- Only the ends are looked at, so that other characters may hide between two digits.
  let stripped := (digits.dropWhile isHex).reverse.dropWhile isHex
  if stripped ≠ [] then .error .malformed
  else if digits = [] then .error .truncated
  else if digits.head? = some 'd' && digits.length = 1 then .error .truncated
  else if isSurrogate then .error .malformed
  else
    match Text.readDigits? 16 (digits.filter (· ≠ '_')) with
    | some code =>
      if code.isValidChar then return Char.ofNat code :: cs.drop digits.length
      else .error .malformed
    | none => .error .malformed

/-- Resolves the long escapes with a given letter, in the parts of a text between them. -/
def longEscapes (letter : Char) (width : Nat) (soFar : List Char) :
    List (List Char) → Bool → Except Error (List Char)
  | [], _ => .ok soFar
  | part :: rest, escaped => do
    if escaped then
      longEscapes letter width (soFar ++ '\\' :: letter :: part) rest (endsEscaped part)
    else longEscapes letter width (soFar ++ (← longEscape width part)) rest false

/-- Resolves the long escapes with a given letter. -/
def resolveLong (letter : Char) (width : Nat) (cs : List Char) : Except Error (List Char) :=
  match cutFirst ['\\', letter] cs.length cs with
  | [] => .ok []
  | first :: rest => longEscapes letter width first rest (endsEscaped first)

/-- Whether each escape of a text is one that exists, going by the parts between backslashes. -/
def escapesExist : Bool → List (List Char) → Bool
  | _, [] => true
  | pending, [] :: rest => escapesExist (!pending) rest
  | pending, (c :: _) :: rest =>
    ((shortEscapes.lookup c).isSome || c = 'u' || c = 'U' || pending) && escapesExist false rest

/-- Whether nothing follows the closing quote of a text, going by the parts between its quotes.
`triples` counts the quotes of a closing triple, if the text has such. -/
def isClosedOnce (triple : Bool) : Nat → Bool → List (List Char) → Bool
  | _, _, [] => true
  | triples, closed, [] :: rest =>
    if triple then isClosedOnce triple (triples + 1) closed rest
    else isClosedOnce triple triples true rest
  | triples, closed, part :: rest =>
    if endsEscaped part then isClosedOnce triple triples closed rest
    else if closed then false
    else if !triple || 1 < triples then isClosedOnce triple triples true rest
    else isClosedOnce triple 0 closed rest

/-- The text that a quoted value stands for. -/
def textOfQuoted (quote : Char) (v : List Char) : Except Error String := do
  let parts := cut quote (v.drop 1)
  let (triple, parts) :=
    match parts with
    | [] :: [] :: rest => (true, rest)
    | parts => (false, parts)
  if !isClosedOnce triple 0 false parts then .error .malformed
  let v ←
    if quote = '"' then do
      if !escapesExist false ((cut '\\' v).drop 1) then .error .malformed
      let v ← resolveLong 'u' 4 v
      let v ← resolveLong 'U' 8 v
      unescape v
    else pure v
  let v :=
    if (v.drop 1).head? = some quote && (v.length < 3 || (v.drop 2).head? = some quote) then
      (v.drop 2).take (v.length - 4)
    else v
  return String.ofList ((v.drop 1).take (v.length - 2))

end ArgScan.Toml
