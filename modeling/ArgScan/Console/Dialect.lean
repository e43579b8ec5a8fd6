import ArgScan.Text.Blank

/-!
# Names on a console

A console looks up names that stand in texts. A name between two colons may be that of an emoji, and
then stands for its characters; a tag names a style, and styles are compared by their meaning; and a
tag may name a handler, with parameters that must be readable. The tables for this belong to the
console and not to the program: a `Dialect` is what is known of them, and it may be any.

In the `plain` dialect there are no emoji, all parameters are readable, and styles have attributes
and the basic colours: `b` and `bold` are the same there, and the order of several attributes does
not matter.
-/

namespace ArgScan.Console

/-- What the names in a text mean to a console. -/
structure Dialect where
  /-- The characters of the emoji with a name, if there is one. -/
  emoji? : List Char → Option (List Char)
  /-- The name by which the style of a tag is compared. -/
  styleName : List Char → String
  /-- Whether parameters of a handler can be read. -/
  isReadable : List Char → Bool

/-! ## Styles -/

/-- The attributes of styles and their names, in the order in which styles are written. -/
def attributeNames : List (String × List String) := [
  ("bold", ["bold", "b"]), ("dim", ["dim", "d"]), ("italic", ["italic", "i"]),
  ("underline", ["underline", "u"]), ("blink", ["blink"]), ("blink2", ["blink2"]),
  ("reverse", ["reverse", "r"]), ("conceal", ["conceal", "c"]), ("strike", ["strike", "s"]),
  ("underline2", ["underline2", "uu"]), ("frame", ["frame"]), ("encircle", ["encircle"]),
  ("overline", ["overline", "o"])]

/-- The colours that a style may name together with attributes. -/
def colours : List String :=
  let plain := ["black", "red", "green", "yellow", "blue", "magenta", "cyan", "white"]
  "default" :: plain ++ plain.map ("bright_" ++ ·)

/-- A style. -/
structure Style where
  /-- The attributes that are set or unset, the last setting of each first. -/
  attributes : List (String × Bool) := []
  /-- The colour. -/
  colour : Option String := none
  /-- The colour of the ground. -/
  ground : Option String := none

/-- The style that words name; `none` if one of them is no part of a style. -/
def Style.read? (style : Style) : List String → Option Style
  | [] => some style
  | "on" :: colour :: rest =>
    if colours.contains colour then { style with ground := some colour }.read? rest else none
  | "not" :: name :: rest =>
    match attributeNames.find? fun a => a.2.contains name with
    | some a => { style with attributes := (a.1, false) :: style.attributes }.read? rest
    | none => none
  | word :: rest =>
    match attributeNames.find? fun a => a.2.contains word with
    | some a => { style with attributes := (a.1, true) :: style.attributes }.read? rest
    | none =>
      if colours.contains word then { style with colour := some word }.read? rest else none

/-- The name of a style, the same for styles of the same meaning. -/
def Style.name (style : Style) : String :=
  let settings := attributeNames.filterMap fun a =>
    (style.attributes.lookup a.1).map fun isSet => if isSet then a.1 else "not " ++ a.1
  let ground := style.ground.map ("on " ++ ·)
  match settings ++ style.colour.toList ++ ground.toList with
  | [] => "none"
  | parts => " ".intercalate parts

/-- The words of a text, between blanks. -/
def blankWords (cs : List Char) : List (List Char) :=
  let (words, last) := cs.foldr (fun c (words, word) =>
    if Text.isBlank c then (if word = [] then words else word :: words, [])
    else (words, c :: word)) (([], []) : List (List Char) × List Char)
  if last = [] then words else last :: words

/-- The name by which the style of a tag is compared. A tag that names no style is compared by its
own name. -/
def basicStyleName (cs : List Char) : String :=
  let lower := cs.map Char.toLower
  match Style.read? {} ((blankWords lower).map String.ofList) with
  | some style => style.name
  | none => String.ofList (Text.trim lower)

/-- The dialect without emoji, with the basic colours. -/
def Dialect.plain : Dialect where
  emoji? _ := none
  styleName := basicStyleName
  isReadable _ := true

/-! ## Codes -/

/-- The name in the code that a text begins with, and the rest behind it. A code is a name between
colons, without blanks. -/
def readCode? : List Char → Option (List Char × List Char)
  | ':' :: rest =>
    let name := rest.takeWhile fun c => c ≠ ':' && !Text.isBlank c
    match rest.drop name.length with
    | ':' :: rest => some (name, rest)
    | _ => none
  | _ => none

/-- The endings of a code that ask for one form of its emoji, and the characters for that. -/
def forms : List (List Char × Char) :=
  [("-emoji".toList, '\ufe0f'), ("-text".toList, '\ufe0e')]

namespace Dialect

/-- What a code with a name stands for: an emoji, or itself if there is none. -/
def codeText (dialect : Dialect) (name : List Char) : List Char :=
  let emoji? :=
    match forms.find? fun form => form.1.isSuffixOf name with
    | some form => (dialect.emoji? (name.take (name.length - form.1.length))).map (· ++ [form.2])
    | none => dialect.emoji? name
  emoji?.getD (':' :: name ++ [':'])

/-- A text with the emoji for its codes, from left to right. -/
def replaceCodes (dialect : Dialect) : Nat → List Char → List Char
  | 0, cs => cs
  | _, [] => []
  | steps + 1, c :: rest =>
    match readCode? (c :: rest) with
    | none => c :: dialect.replaceCodes steps rest
    | some (name, rest) => dialect.codeText name ++ dialect.replaceCodes steps rest

/-- A text with the emoji for its codes. -/
def replace (dialect : Dialect) (cs : List Char) : List Char := dialect.replaceCodes cs.length cs

end Dialect

end ArgScan.Console
