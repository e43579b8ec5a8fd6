/-!
# Paths

A path is a row of names, possibly from the root. Names that are empty or a single point do not
count; the name of two points, for the folder above, does. The last name may have a suffix, which
says what the file holds.
-/

namespace ArgScan.Files

/-- A path to a file or a folder. -/
structure Path where
  /-- The slashes that the path begins with if it starts at the root. -/
  root : String := ""
  /-- The names. -/
  names : List String
deriving DecidableEq

namespace Path

/-- The slashes that mark a path from the root. Two are kept apart from any other number. -/
def rootOf (cs : List Char) : String :=
  match (cs.takeWhile (· = '/')).length with
  | 0 => ""
  | 2 => "//"
  | _ => "/"

/-- The parts of a text between slashes. -/
def cutAtSlashes : List Char → List (List Char)
  | [] => [[]]
  | c :: rest =>
    let parts := cutAtSlashes rest
    if c = '/' then [] :: parts else (c :: parts.headD []) :: parts.drop 1

/-- The path that a text is. -/
def ofText (text : String) : Path where
  root := rootOf text.toList
  names := (cutAtSlashes text.toList).filterMap fun part =>
    if part = [] ∨ part = ['.'] then none else some (String.ofList part)

/-- The text of a path. The empty path is a point. -/
def display (p : Path) : String :=
  if p.root = "" ∧ p.names = [] then "." else p.root ++ "/".intercalate p.names

/-- The suffix of a name, from its last point on. A point at the start or the end of the name begins
no suffix. -/
def suffixOf (name : List Char) : List Char :=
  let ending := (name.reverse.takeWhile (· ≠ '.')).reverse
  let before := name.take (name.length - ending.length - 1)
  if ending = [] ∨ before = [] then [] else '.' :: ending

/-- The suffix of the last name. -/
def suffix (p : Path) : String :=
  String.ofList (suffixOf ((p.names.getLast?.map String.toList).getD []))

end Path

end ArgScan.Files
