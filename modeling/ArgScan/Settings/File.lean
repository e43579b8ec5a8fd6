import ArgScan.Host
import ArgScan.Settings.Entry

/-!
# Settings files

A settings file is a mapping that lists entries under the key for arguments. Its suffix says whether
it is written in YAML or in TOML. The file must be there, and is opened, before its suffix is looked
at. An error of the host on the way is passed on as it is.
-/

namespace ArgScan

/-- The language that a suffix stands for, in lower case alone. -/
def Language.ofSuffix? : String → Option Language
  | ".yaml" | ".yml" => some yaml
  | ".toml" => some toml
  | _ => none

namespace Settings

/-- Why a settings file gives no definitions. -/
inductive FileError where
  /-- What is meant to be a path is no text. -/
  | notPath
  /-- There is no file under the path. -/
  | missing (path : String)
  /-- The suffix stands for no language. -/
  | unsupported (suffix : String)
  /-- The file cannot be looked up, opened or read. -/
  | host (error : HostError)
  /-- The file has no list of entries. -/
  | shape
  /-- An entry is at fault. -/
  | entry (error : EntryError)

/-- The wording of an error with a settings file. -/
def FileError.message : FileError → String
  | notPath => "file_path must be a string or Path object."
  | missing path => "No such config file: " ++ path
  | unsupported suffix => "Unsupported config format: " ++ suffix
  | host error => error.message
  | shape =>
    "Configuration file must contain a dictionary with a list of arguments.\n" ++
      "Example:\n" ++
      "arguments:\n" ++
      "  - kind: 'option'\n" ++
      "    name: 'output'\n" ++
      "    syntax: ['equals']"
  | entry error => error.message

/-- The entries that a settings file lists. -/
def entriesOf : Datum → Except FileError (List Datum)
  | .mapping fields =>
    match Datum.find? fields "arguments" with
    | some (.list entries) => .ok entries
    | _ => .error .shape
  | _ => .error .shape

/-- The outcome of reading a settings file. -/
structure Loaded where
  /-- The path of the file. -/
  path : Files.Path
  /-- The definitions, in the order of the file. -/
  definitions : List Definition

/-- What is noted in the log about a settings file. -/
def Loaded.message (loaded : Loaded) : String :=
  "Loaded " ++ Text.decimal loaded.definitions.length ++ " argument definitions from " ++
    loaded.path.display

/-- Reads the settings file under a path that is written as given. -/
def load (host : Host) (given : String) : Except FileError Loaded := do
  let path := Files.Path.ofText given
  if ← (host.isFile path).mapError .host then
    let text ← (host.openFile path).mapError .host
    match Language.ofSuffix? path.suffix with
    | none => .error (.unsupported path.suffix)
    | some language =>
      let entries ← entriesOf (← (host.read language text).mapError .host)
      return { path, definitions := ← (readEntries entries).mapError .entry }
  else
    .error (.missing given)

/-- Reads the settings file under what is meant to be a path. -/
def loadFrom (host : Host) : Datum → Except FileError Loaded
  | .text given => load host given
  | _ => .error .notPath

end Settings

end ArgScan
