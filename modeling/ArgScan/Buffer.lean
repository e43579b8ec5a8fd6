import ArgScan.Scan

/-!
# Buffers of tokens

A buffer holds the tokens of a command line that nothing has taken yet. Batches of definitions are
scanned for one after another, each in what the ones before have left.
-/

namespace ArgScan

/-- The tokens that nothing has taken yet. -/
structure Buffer where
  /-- The tokens in order. -/
  remaining : List String
deriving DecidableEq

/-- Tokens were left where none was allowed. -/
structure Unrecognized where
  /-- The tokens left. -/
  tokens : List String
deriving DecidableEq

/-- The wording of the refusal. -/
def Unrecognized.message (e : Unrecognized) : String :=
  "Unrecognized arguments: " ++ " ".intercalate e.tokens

/-- Why a datum fills no buffer. -/
inductive SourceError where
  /-- It holds no values. -/
  | noValues
  /-- It holds a value that does not show. -/
  | unwritable
deriving DecidableEq

namespace Buffer

/-- The buffer of the values that a datum holds, each in its display form. -/
def ofDatum (d : Datum) : Except SourceError Buffer :=
  match d.items? with
  | none => .error .noValues
  | some items =>
    if items.all Datum.isWritable then .ok ⟨items.map Datum.display⟩ else .error .unwritable

/-- Scans the buffer for a batch of definitions: the findings, and the buffer without the tokens
taken. -/
def take (b : Buffer) (definitions : List Definition) :
    Except PositionFault (List Finding × Buffer) :=
  (scan definitions b.remaining).map fun s => (s.findings, ⟨s.tokens⟩)

/-- The number of tokens left. -/
def size (b : Buffer) : Nat := b.remaining.length

/-- Refuses a buffer that is not empty. -/
def expectEmpty (b : Buffer) : Except Unrecognized Unit :=
  if b.remaining = [] then .ok () else .error ⟨b.remaining⟩

/-- The literal of a buffer. -/
def literal (b : Buffer) : String := "Args(" ++ Text.quotedList b.remaining ++ ")"

end Buffer

end ArgScan
