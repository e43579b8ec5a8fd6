import ArgScan.Text.Blank
import ArgScan.Text.Digit

/-!
# Filling lines with words

A text is set in lines of a given width. White space between words counts as a single blank, and
none stands at a line's end. A line may end behind a word, behind a hyphen within a word that joins
letters, or beside a dash of two or more hyphens. A piece that no line can hold is cut where the
line ends, behind a hyphen if there is one.
-/

namespace ArgScan.Text

/-- The words of a text, between ASCII white space. -/
def asciiWords (cs : List Char) : List (List Char) :=
  let isSpace (c : Char) := c = ' ' || ('\t' ≤ c && c ≤ '\r')
  let (words, last) := cs.foldr (fun c (words, word) =>
    if isSpace c then (if word = [] then words else word :: words, [])
    else (words, c :: word)) (([], []) : List (List Char) × List Char)
  if last = [] then words else last :: words

/-- Whether a character is a letter or an underscore. -/
def isWordLetter (c : Char) : Bool := isWordChar c && !isDecimalDigit c

/-- Whether a dash may follow a character. -/
def isDashable (c : Char) : Bool := isWordChar c || ['!', '"', '\'', '&', '.', ',', '?'].contains c

/-- Whether a line may end behind a hyphen, going by the characters before it, the last one first,
and those after it. -/
def breaksAtHyphen (before after : List Char) : Bool :=
  let joins :=
    match before with
    | a :: b :: rest =>
      isWordLetter a && (isWordLetter b || (b = '-' && rest.head?.any isWordLetter))
    | _ => false
  let follows :=
    match after with
    | a :: '-' :: b :: _ => isWordLetter a && isWordLetter b
    | a :: b :: _ => isWordLetter a && isWordLetter b
    | _ => false
  joins && follows

/-- Whether a dash between words begins a text: two or more hyphens and then a word. -/
def beginsDash (cs : List Char) : Bool :=
  2 ≤ (cs.takeWhile (· = '-')).length && (cs.dropWhile (· = '-')).head?.any isWordChar

/-- The pieces of a word between which a line may end. `before` holds the characters passed, the
last one first, and `piece` those of the current piece. `inDash` says that the piece is a dash. -/
def hyphenPieces : List Char → List Char → Bool → List Char → List (List Char)
  | _, piece, _, [] => if piece = [] then [] else [piece.reverse]
  | before, piece, inDash, c :: rest =>
    let next := c :: before
    if inDash then
      if c = '-' then hyphenPieces next (c :: piece) true rest
      else piece.reverse :: hyphenPieces next [c] false rest
    else
      let isDash := before.head?.any isDashable && beginsDash (c :: rest)
      if isDash && c = '-' then
        let pieces := hyphenPieces next [c] true rest
        if piece = [] then pieces else piece.reverse :: pieces
      else if c = '-' && piece ≠ [] && breaksAtHyphen before rest then
        (c :: piece).reverse :: hyphenPieces next [] false rest
      else hyphenPieces next (c :: piece) false rest

/-- The pieces of a text between which a line may end, with blanks between the words. -/
def fillPieces (cs : List Char) : List (List Char) :=
  [[' ']].intercalate ((asciiWords cs).map fun word => hyphenPieces [] [] false word)

/-- As many pieces as a line of a given width holds, and the pieces left. -/
def fitPieces (width : Nat) : List (List Char) → List (List Char) × List (List Char)
  | [] => ([], [])
  | piece :: rest =>
    if piece.length ≤ width then
      let (line, left) := fitPieces (width - piece.length) rest
      (piece :: line, left)
    else ([], piece :: rest)

/-- The number of characters of a long piece that go on a line with a given room. -/
def cutPlace (piece : List Char) (room : Nat) : Nat :=
  let upToHyphen := ((piece.take room).reverse.dropWhile (· ≠ '-')).length
  if 1 < upToHyphen && (piece.take (upToHyphen - 1)).any (· ≠ '-') then upToHyphen else room

/-- Sets pieces in lines. -/
def setPieces (width : Nat) : Nat → Bool → List (List Char) → List (List Char)
  | 0, _, _ => []
  | steps + 1, isFirst, pieces =>
    let pieces := if !isFirst && pieces.head? = some [' '] then pieces.drop 1 else pieces
    if pieces = [] then []
    else
      let (line, left) := fitPieces width pieces
      let (line, left) :=
        match left with
        | piece :: rest =>
          if width < piece.length then
            let place := cutPlace piece (width - line.flatten.length)
            (line ++ [piece.take place], piece.drop place :: rest)
          else (line, left)
        | [] => (line, left)
      let line := if (line.getLast?.map trim) = some [] then line.dropLast else line
      if line = [] then setPieces width steps isFirst left
      else line.flatten :: setPieces width steps false left

/-- The lines of a text at a given width. -/
def fill (width : Nat) (text : String) : List String :=
  let pieces := fillPieces text.toList
  (setPieces width (2 * text.length + 2) true pieces).map String.ofList

end ArgScan.Text
