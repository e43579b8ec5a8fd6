import ArgScan.Console.Dialect
import ArgScan.Files.Folder
import ArgScan.Toml.Document
import ArgScan.Yaml.Value

/-!
# What a run is given

A run looks for files, hands their texts to readers of two languages, and prints on a console that
knows names. All of this is there before the program, and none of it is the program's. A `Host` is
what a run is given of it, and it may be any: its parts give what they give or fail, with an error
of any kind. The program tells some kinds of errors to the user, those that it counts on, and is
broken off by the others.

`Host.ofFolder` is the host that has the files of a folder, reads the languages as the modules for
them say, and prints in the plain dialect. The readers there give the value of every text that has
one. Of several faults in a text they may report another one than a reader that goes through the
text in another order, and they go into any depth, where another reader gives up.
-/

namespace ArgScan

/-- The languages of settings files. -/
inductive Language where
  | yaml
  | toml
deriving DecidableEq

/-- The kinds of errors from outside the program. -/
inductive ErrorKind where
  /-- A value or a text is at fault. -/
  | value
  /-- A text is not in TOML, which is a way for a text to be at fault. -/
  | toml
  /-- There is no file. -/
  | noFile
  /-- A text is not in YAML. -/
  | yaml
  /-- A position is outside of a row. -/
  | index
  /-- A value is not of the type that it should be of. -/
  | type
  /-- A number is too large for what it is needed for. -/
  | overflow
  /-- The file system fails in another way. -/
  | system
  /-- Anything else. -/
  | other
deriving DecidableEq

/-- Whether the program counts on errors of a kind. -/
def ErrorKind.isExpected : ErrorKind → Bool
  | value | toml | noFile => true
  | _ => false

/-- An error from outside the program. -/
structure HostError where
  /-- Its kind. -/
  kind : ErrorKind
  /-- Its wording. -/
  message : String := ""
deriving DecidableEq

/-- What a run is given. -/
structure Host where
  /-- Whether there is a file under a path. -/
  isFile : Files.Path → Except HostError Bool
  /-- Opens the file under a path, which gives its text with each kind of line break as a line feed.
  A file that opens and holds no text is for the readers to refuse. -/
  openFile : Files.Path → Except HostError String
  /-- The value that a text in a language is. -/
  read : Language → String → Except HostError Datum
  /-- Whether a file under a path can be opened to add text to it. -/
  canAppend : Files.Path → Bool
  /-- The dialect of the console. -/
  dialect : Console.Dialect

/-- The error of a text that is no YAML, as its reader raises it. -/
def Yaml.Error.raised (error : Yaml.Error) : HostError where
  kind :=
    match error with
    | .malformed => .yaml
    | .beyondCharacters => .overflow
    | _ => .value
  message := error.message

/-- The error of a text that is no TOML, as its reader raises it. A table that is added to something
that is no array makes the reader take the file itself for a value of the wrong type. -/
def Toml.Error.raised : Toml.Error → HostError
  | .malformed => { kind := .toml }
  | .truncated => { kind := .index }
  | .notTable => { kind := .type }
  | .notArray =>
    { kind := .type, message := "You can only load a file descriptor, filename or list" }

/-- The value that a text in a language is, as the modules for both languages say. -/
def Language.read : Language → String → Except HostError Datum
  | yaml, text => (Yaml.readDocument text).mapError Yaml.Error.raised
  | toml, text => (Toml.readDocument text).mapError Toml.Error.raised

/-- The host that has the files of a folder. A path that is too long is an error of the system. -/
def Host.ofFolder (folder : Files.Folder) : Host where
  isFile path :=
    if folder.isTooLong path then .error { kind := .system } else .ok (folder.read? path).isSome
  openFile path :=
    match folder.read? path with
    | some text => .ok (String.ofList (Files.withLineFeeds text.toList))
    | none => .error { kind := .noFile }
  read := Language.read
  canAppend := folder.canOpen
  dialect := .plain

/-- A folder stands for the host that has its files. -/
instance : Coe Files.Folder Host := ⟨Host.ofFolder⟩

end ArgScan
