import ArgScan.Console.Dialect

/-!
# Markup

A text may hold tags in brackets that set a style or a handler, and closing tags that end one. Tags
do not show. A tag begins with a lower-case letter or one of three marks, so that other brackets
stand for themselves; a backslash before a tag makes it stand for itself too, and two backslashes
there stand for one. A closing tag names what it ends, or ends the last one; it is an error if
nothing of that name is open, or if it ends a handler whose parameters cannot be read. `escape`
writes a text so that no tag in it counts.

What stands between tags shows with the emoji for its codes.
-/

namespace ArgScan.Console.Markup

/-- What is wrong with a closing tag. -/
inductive Error where
  /-- What the tag names is not open, or nothing is open. -/
  | nothingToClose
  /-- The parameters of the handler that it ends cannot be read. -/
  | unreadable
deriving DecidableEq

/-! ## Tags -/

/-- A part of a text with markup. -/
inductive Part where
  /-- Characters that stand for themselves. -/
  | plain (cs : List Char)
  /-- A tag. -/
  | tag (cs : List Char)
deriving DecidableEq

/-- Whether a character may begin a tag. -/
def beginsTag (c : Char) : Bool := ('a' ≤ c && c ≤ 'z') || c = '#' || c = '/' || c = '@'

/-- The tag that a text begins with, and the rest behind its bracket. -/
def readTag? : List Char → Option (List Char × List Char)
  | '[' :: c :: rest =>
    let inner := rest.takeWhile fun c => c ≠ '[' && c ≠ ']'
    match rest.drop inner.length with
    | ']' :: rest => if beginsTag c then some (c :: inner, rest) else none
    | _ => none
  | _ => none

/-- The number of backslashes that a text begins with, the tag behind them, and the rest. -/
def readEscapedTag? (cs : List Char) : Option (Nat × List Char × List Char) :=
  let slashes := (cs.takeWhile (· = '\\')).length
  (readTag? (cs.drop slashes)).map fun (tag, rest) => (slashes, tag, rest)

/-- A character put before parts. -/
def putBefore (c : Char) : List Part → List Part
  | .plain cs :: rest => .plain (c :: cs) :: rest
  | parts => .plain [c] :: parts

/-- The parts of a text with markup. Backslashes and a tag that stand for themselves are parts of
their own. -/
def parts : Nat → List Char → List Part
  | 0, _ => []
  | _, [] => []
  | steps + 1, c :: rest =>
    match readEscapedTag? (c :: rest) with
    | none => putBefore c (parts steps rest)
    | some (slashes, tag, rest) =>
      let before := if slashes < 2 then [] else [Part.plain (List.replicate (slashes / 2) '\\')]
      let this := if slashes % 2 = 1 then Part.plain ('[' :: tag ++ [']']) else .tag tag
      before ++ this :: parts steps rest

/-- Characters without the backslashes that stand before an opening bracket. -/
def dropSlashes : List Char → List Char
  | '\\' :: '[' :: rest => '[' :: dropSlashes rest
  | c :: rest => c :: dropSlashes rest
  | [] => []

/-- A tag that is open. -/
structure Opened where
  /-- The name by which it is closed. -/
  name : String
  /-- The parameters, if it is a handler. -/
  parameters : List Char := []

/-- What a tag opens. Its name goes up to an equals sign, and a handler begins with a mark. -/
def openTag (dialect : Dialect) (tag : List Char) : Opened :=
  let name := tag.takeWhile (· ≠ '=')
  { name := dialect.styleName name
    parameters := if name.head? = some '@' then tag.drop (name.length + 1) else [] }

/-- Closes what is open, which leaves the rest open. -/
def close (dialect : Dialect) (o : Opened) (rest : List Opened) : Except Error (List Opened) :=
  if o.parameters = [] || dialect.isReadable o.parameters then .ok rest else .error .unreadable

/-- What is open after a tag, the last one first. -/
def openAfter (dialect : Dialect) (opened : List Opened) (tag : List Char) :
    Except Error (List Opened) :=
  match tag.takeWhile (· ≠ '=') with
  | '/' :: name =>
    if Text.trim name = [] then
      match opened with
      | [] => .error .nothingToClose
      | o :: rest => close dialect o rest
    else
      let closed := dialect.styleName (Text.trim name)
      match opened.find? (·.name = closed) with
      | none => .error .nothingToClose
      | some o => close dialect o (opened.eraseP (·.name = closed))
  | _ => .ok (openTag dialect tag :: opened)

/-- What parts show, after tags that are left open. -/
def showParts (dialect : Dialect) : List Opened → List Part → Except Error (List Char)
  | _, [] => .ok []
  | opened, .plain cs :: rest =>
    (showParts dialect opened rest).map (dialect.replace (dropSlashes cs) ++ ·)
  | opened, .tag tag :: rest => do showParts dialect (← openAfter dialect opened tag) rest

/-- What a text with markup shows. -/
def render (cs : List Char) (dialect : Dialect := .plain) : Except Error (List Char) :=
  if cs.contains '[' then showParts dialect [] (parts cs.length cs) else .ok (dialect.replace cs)

/-! ## Escapes -/

/-- A text with a backslash before each of its tags, and the backslashes there doubled. -/
def escapeTags : Nat → List Char → List Char
  | 0, _ => []
  | _, [] => []
  | steps + 1, c :: rest =>
    match readEscapedTag? (c :: rest) with
    | none => c :: escapeTags steps rest
    | some (slashes, tag, rest) =>
      List.replicate (2 * slashes + 1) '\\' ++ '[' :: tag ++ ']' :: escapeTags steps rest

/-- A text as markup that shows it. A single backslash at its end is doubled, so that it does not
escape what follows. -/
def escape (cs : List Char) : List Char :=
  let escaped := escapeTags cs.length cs
  match escaped.reverse with
  | ['\\'] => escaped ++ ['\\']
  | '\\' :: c :: _ => if c = '\\' then escaped else escaped ++ ['\\']
  | _ => escaped

end ArgScan.Console.Markup
