import ArgScan.Calendar
import ArgScan.Text.Quoted

/-!
# Data of unknown shape

A settings file holds data whose shape is not known until it is checked, and the checks quote what
they refuse. `Datum` is such a value. It shows in two forms that differ for texts alone: as a
`literal`, where a text stands in quotes, and in `display`, where a text is itself. A value that
holds a whole number of too many digits shows in neither (`isWritable`).
-/

namespace ArgScan

/-- A value of a settings file. -/
inductive Datum where
  /-- The absent value. -/
  | null
  /-- A truth value. -/
  | bool (b : Bool)
  /-- A whole number of any size. -/
  | int (n : Int)
  /-- A number with a fraction or an exponent, by its shortest written form. -/
  | decimal (written : String)
  /-- A text. -/
  | text (s : String)
  /-- A row of bytes. -/
  | bytes (octets : List UInt8)
  /-- A day, a time of day or a moment. -/
  | stamp (s : Stamp)
  /-- Values in a row. -/
  | list (items : List Datum)
  /-- A fixed number of values in a row. -/
  | tuple (items : List Datum)
  /-- Values without repetition. -/
  | set (items : List Datum)
  /-- Values under keys, in the order in which the keys first came. -/
  | mapping (entries : List (Datum × Datum))
  /-- The list or mapping that the value itself is in. -/
  | enclosing (isMapping : Bool)

namespace Datum

/-- One byte of a literal row of bytes. -/
def literalByte (quote : Char) (octet : UInt8) : List Char :=
  let c := Char.ofNat octet.toNat
  if octet.toNat < 0x7F then Text.Quoted.encodeChar quote c else Text.Quoted.escape c

/-- The literal of a row of bytes. -/
def literalBytes (octets : List UInt8) : String :=
  let quote := Text.Quoted.quoteFor (octets.map fun o => Char.ofNat o.toNat)
  String.ofList ('b' :: quote :: octets.flatMap (literalByte quote) ++ [quote])

mutual
/-- The literal of a value, texts in quotes. -/
def literal : Datum → String
  | null => "None"
  | bool true => "True"
  | bool false => "False"
  | int n => Text.signedDecimal n
  | decimal written => written
  | text s => Text.quoted s
  | bytes octets => literalBytes octets
  | stamp s => s.literal
  | list items => "[" ++ ", ".intercalate (literals items) ++ "]"
  | tuple [item] => "(" ++ item.literal ++ ",)"
  | tuple items => "(" ++ ", ".intercalate (literals items) ++ ")"
  | set [] => "set()"
  | set items => "\x7b" ++ ", ".intercalate (literals items) ++ "\x7d"
  | mapping entries => "\x7b" ++ ", ".intercalate (literalEntries entries) ++ "\x7d"
  | enclosing isMapping => if isMapping then "\x7b...\x7d" else "[...]"

/-- The literals of values in a row. -/
def literals : List Datum → List String
  | [] => []
  | item :: rest => item.literal :: literals rest

/-- The literals of entries, each a key and its value. -/
def literalEntries : List (Datum × Datum) → List String
  | [] => []
  | (key, value) :: rest => (key.literal ++ ": " ++ value.literal) :: literalEntries rest
end

mutual
/-- Whether a value shows: no whole number in it has too many digits. -/
def isWritable : Datum → Bool
  | int n => Text.isWritable n
  | list items | tuple items | set items => areWritable items
  | mapping entries => entriesWritable entries
  | _ => true

/-- Whether values in a row show. -/
def areWritable : List Datum → Bool
  | [] => true
  | item :: rest => item.isWritable && areWritable rest

/-- Whether entries show, the key and the value of each. -/
def entriesWritable : List (Datum × Datum) → Bool
  | [] => true
  | (key, value) :: rest => key.isWritable && value.isWritable && entriesWritable rest
end

/-- A sentence that ends with the literal of a value. If the value does not show, the sentence is
the refusal to write it. -/
def wording (start : String) (d : Datum) : String :=
  if d.isWritable then start ++ d.literal else Text.tooManyDigits

/-- A text as it is, and any other value as its literal, save that calendar values stand in their
plain form. -/
def display : Datum → String
  | text s => s
  | stamp s => s.display
  | d => d.literal

/-- The name of a value's type, as messages give it. -/
def typeName : Datum → String
  | null => "NoneType"
  | bool _ => "bool"
  | int _ => "int"
  | decimal _ => "float"
  | text _ => "str"
  | bytes _ => "bytes"
  | stamp s => s.typeName
  | list _ => "list"
  | tuple _ => "tuple"
  | set _ => "set"
  | mapping _ => "dict"
  | enclosing isMapping => if isMapping then "dict" else "list"

/-- The text that a value is, if it is one. -/
def text? : Datum → Option String
  | text s => some s
  | _ => none

/-- What a walk over the value visits: the characters of a text, the values of a row and the keys of
a mapping. Numbers, truth values, calendar values and the absent value have nothing to visit. -/
def items? : Datum → Option (List Datum)
  | text s => some (s.toList.map fun c => text (String.ofList [c]))
  | bytes octets => some (octets.map fun o => int o.toNat)
  | list items | tuple items | set items => some items
  | mapping entries => some (entries.map Prod.fst)
  | _ => none

/-- The value that a mapping holds under a text. -/
def find? (entries : List (Datum × Datum)) (key : String) : Option Datum :=
  entries.findSome? fun
    | (text k, value) => if k = key then some value else none
    | _ => none

/-! ## Keys -/

/-- Whether a value may be a key: it has no parts that could change. -/
def isKey : Datum → Bool
  | list _ | set _ | mapping _ | enclosing _ => false
  | _ => true

/-- The number that a value counts as among keys, in which truth values are zero and one, and a
number with a zero fraction is the whole number. -/
def keyNumber? : Datum → Option Int
  | bool b => some b.toNat
  | int n => some n
  | decimal written => (written.dropSuffix? ".0").bind fun s => s.toString.toInt?
  | _ => none

/-- Whether two values are the same key. -/
def isSameKey (a b : Datum) : Bool :=
  match a.keyNumber?, b.keyNumber? with
  | some m, some n => m = n
  | none, none => a.typeName = b.typeName && a.literal = b.literal
  | _, _ => false

/-- The entries with a value set under a key. A key that is there already keeps its place. -/
def insert (key value : Datum) : List (Datum × Datum) → List (Datum × Datum)
  | [] => [(key, value)]
  | (k, v) :: rest =>
    if k.isSameKey key then (k, value) :: rest else (k, v) :: insert key value rest

/-- The entries of a mapping that is filled in order. -/
def mappingOf (entries : List (Datum × Datum)) : List (Datum × Datum) :=
  entries.foldl (fun soFar entry => insert entry.1 entry.2 soFar) []

end Datum

end ArgScan
