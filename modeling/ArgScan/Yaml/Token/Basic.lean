import ArgScan.Yaml.Error

/-!
# Tokens of YAML texts

A YAML text is a row of tokens. Besides what is written, the row has tokens for what the layout
says: where a block collection starts and ends, and where a key starts that is only known as one by
the colon behind it.
-/

namespace ArgScan.Yaml

/-- A token of a YAML text. -/
inductive Token where
  /-- A directive that gives the version of the language. -/
  | version (major : Nat)
  /-- A directive that gives the start of a tag a short handle. -/
  | tagHandle (handle start : String)
  /-- Any other directive. -/
  | directive
  | documentStart
  | documentEnd
  | blockSequenceStart
  | blockMappingStart
  | blockEnd
  | flowSequenceStart
  | flowSequenceEnd
  | flowMappingStart
  | flowMappingEnd
  | blockEntry
  | flowEntry
  | key
  | value
  /-- A reference to an anchor. -/
  | alias (name : String)
  /-- The anchor of the next node. -/
  | anchor (name : String)
  /-- The tag of the next node: the handle, unless the tag is given in full, and the rest. -/
  | tag (handle : Option String) (rest : String)
  /-- A text, and whether it stands plain, without quotes. -/
  | scalar (text : String) (plain : Bool)
deriving DecidableEq

end ArgScan.Yaml
