import ArgScan.Files.Path

/-!
# Folders

A folder holds files, in folders of its own at any depth. A path is looked up from it name by name,
and each name but the last must be a folder. The root and the folders above are there too, but
nothing is known of them except for the files that are written there.

A place is a row of names that leads to a file or a folder without detours. It begins with a slash
if it is below the root, and with pairs of points if it is not below the folder.
-/

namespace ArgScan.Files

/-- A place, seen from a folder. -/
abbrev Place := List String

/-- The files and folders that are seen from a folder. -/
structure Folder where
  /-- The files with their texts. -/
  files : List (Place × String) := []
  /-- The folders. -/
  folders : List Place := []

/-- The place of the root. -/
def rootPlace : Place := ["/"]

/-- Whether a place is the folder itself or a folder above it. -/
def Place.isAbove (place : Place) : Bool := place.all (· = "..")

/-- The place of the folder above. -/
def Place.up (place : Place) : Place :=
  if place = rootPlace then place
  else if place.isAbove then place ++ [".."]
  else place.dropLast

/-- The place that a name leads to. -/
def Place.down (place : Place) (name : String) : Place :=
  if name = ".." then place.up else place ++ [name]

/-- The place at which a path begins. -/
def Path.start (p : Path) : Place := if p.root = "" then [] else rootPlace

namespace Folder

/-- Whether there is a folder at a place. -/
def hasFolder (f : Folder) (place : Place) : Bool :=
  place = rootPlace || place.isAbove || f.folders.contains place

/-- Where names lead from a place. Every name before the last must lead to a folder. -/
def goto (f : Folder) : Place → List String → Option Place
  | place, [] => some place
  | place, name :: rest => if f.hasFolder place then f.goto (place.down name) rest else none

/-- The text of the file that a path leads to. -/
def read? (f : Folder) (p : Path) : Option String :=
  (f.goto p.start p.names).bind fun place => f.files.lookup place

/-- The greatest number of bytes of a name. -/
def maxNameBytes : Nat := 255

/-- The greatest number of bytes of a path. -/
def maxPathBytes : Nat := 4095

/-- Whether one of the names that are walked through from a place is too long. The walk ends where a
name leads to no folder. -/
def meetsLongName (f : Folder) : Place → List String → Bool
  | _, [] => false
  | place, name :: rest =>
    f.hasFolder place &&
      (maxNameBytes < name.utf8ByteSize || f.meetsLongName (place.down name) rest)

/-- Whether a path is too long to be followed. -/
def isTooLong (f : Folder) (p : Path) : Bool :=
  maxPathBytes < p.display.utf8ByteSize || f.meetsLongName p.start p.names

/-- Whether a file under a path can be opened to add text to it. It need not be there yet, but the
folder that it is to be in must be. -/
def canOpen (f : Folder) (p : Path) : Bool :=
  (f.goto p.start p.names).any fun place => !f.hasFolder place

/-- Makes the folders that names lead through. -/
def makeFolders (f : Folder) : Place → List String → Folder
  | _, [] => f
  | place, name :: rest =>
    let place := place.down name
    { f with folders := place :: f.folders }.makeFolders place rest

/-- The folder with a file written to it. The folders on the way are made. -/
def write (f : Folder) (p : Path) (text : String) : Folder :=
  let f := f.makeFolders p.start p.names.dropLast
  match f.goto p.start p.names with
  | some place => { f with files := (place, text) :: f.files }
  | none => f

/-- The folder with the given files, each a path and a text. -/
def ofFiles (files : List (String × String)) : Folder :=
  files.foldl (fun f (path, text) => f.write (.ofText path) text) {}

end Folder

/-- A text with each kind of line break as a line feed. -/
def withLineFeeds : List Char → List Char
  | '\r' :: '\n' :: rest => '\n' :: withLineFeeds rest
  | '\r' :: rest => '\n' :: withLineFeeds rest
  | c :: rest => c :: withLineFeeds rest
  | [] => []

end ArgScan.Files
