/-!
# Errors of TOML documents

Most faults of a document are one error. Three kinds of fault stand apart, since a reader tells them
apart: a text that ends where more of it must follow, a name under something that is no table, and a
table that is to be added to something that is no array.
-/

namespace ArgScan.Toml

/-- Why a text is no TOML document. -/
inductive Error where
  /-- The text is no document. -/
  | malformed
  /-- A text ends where more of it must follow. -/
  | truncated
  /-- A name is looked up in something that is no table. -/
  | notTable
  /-- A table is added to something that is no array. -/
  | notArray
deriving DecidableEq

end ArgScan.Toml
