import ArgScan.Draft

/-!
# Entries of a settings file

An entry describes one argument: its kind, its name, and optionally its aliases and the names of its
facets. All fields are checked, and every fault is reported with the place where it was found, in
the order of the fields. Fields with other names are ignored. An alias may still be the empty text
here; it is refused when the entry becomes a definition.
-/

namespace ArgScan.Settings

/-- An entry whose fields have the right shapes. -/
structure Entry where
  /-- The kind of the argument. -/
  kind : Kind
  /-- The name. -/
  name : NonemptyText
  /-- The aliases. -/
  aliases : List String
  /-- The names of the facets as they were given. -/
  facetNames : List String
  /-- The facets that these names stand for. -/
  facets : Facets

/-- What is wrong with a field. -/
inductive Fault where
  /-- It is not there. -/
  | missing
  /-- It is no text. -/
  | notText
  /-- It is a row of bytes that are no text in UTF-8. -/
  | notUtf8
  /-- It is the empty text. -/
  | empty
  /-- It is no list. -/
  | notList
  /-- Its kind is none. -/
  | kind (error : KindError)
  /-- Its facet names are no list. -/
  | facetsNotList
  /-- One of its facet names is none. -/
  | facet (error : FacetError)

/-- The class of a fault. -/
def Fault.tag : Fault → String
  | missing => "missing"
  | notText => "string_type"
  | notUtf8 => "string_unicode"
  | empty => "string_too_short"
  | notList => "list_type"
  | kind _ | facetsNotList | facet _ => "value_error"

/-- The wording of a fault. -/
def Fault.message : Fault → String
  | missing => "Field required"
  | notText => "Input should be a valid string"
  | notUtf8 => "Input should be a valid string, unable to parse raw data as a unicode string"
  | empty => "String should have at least 1 character"
  | notList => "Input should be a valid list"
  | kind error => "Value error, " ++ error.message
  | facetsNotList => "Value error, syntax must be a list of facet names."
  | facet error => "Value error, " ++ error.message

/-- A fault and where it is. -/
structure FieldFault where
  /-- The name of the field. -/
  field : String
  /-- The position in the field's list, for a fault of one item. -/
  index : Option Nat := none
  /-- The fault. -/
  fault : Fault

/-- The outcome of checking one field: its value, or all its faults. -/
abbrev Checked (α : Type) := Except (List FieldFault) α

/-- The faults that a check found. -/
def Checked.faults {α : Type} : Checked α → List FieldFault
  | .ok _ => []
  | .error faults => faults

/-- The outcome of a field with a single fault. -/
def faulty {α : Type} (field : String) (fault : Fault) : Checked α :=
  .error [{ field, fault }]

/-- Checks the kind. -/
def checkKind : Option Datum → Checked Kind
  | none => faulty "kind" .missing
  | some d =>
    match Kind.ofDatum d with
    | .ok kind => .ok kind
    | .error error => faulty "kind" (.kind error)

/-- The text that a value stands for. Bytes stand for a text in UTF-8. -/
def textOf : Datum → Except Fault String
  | .text s => .ok s
  | .bytes octets =>
    match String.fromUTF8? ⟨octets.toArray⟩ with
    | some s => .ok s
    | none => .error .notUtf8
  | _ => .error .notText

/-- Checks the name. -/
def checkName : Option Datum → Checked NonemptyText
  | none => faulty "name" .missing
  | some d =>
    match textOf d with
    | .ok s => if h : s = "" then faulty "name" .empty else .ok ⟨s, h⟩
    | .error fault => faulty "name" fault

/-- The faults of the aliases that stand for no texts, counted from a position. -/
def aliasFaults (index : Nat) : List Datum → List FieldFault
  | [] => []
  | d :: rest =>
    match textOf d with
    | .ok _ => aliasFaults (index + 1) rest
    | .error fault => { field := "aliases", index, fault } :: aliasFaults (index + 1) rest

/-- Checks the aliases. Without the field there are none. -/
def checkAliases : Option Datum → Checked (List String)
  | none => .ok []
  | some (.list items) | some (.tuple items) | some (.set items) =>
    match aliasFaults 0 items with
    | [] => .ok (items.filterMap fun d => (textOf d).toOption)
    | faults => .error faults
  | some _ => faulty "aliases" .notList

/-- Checks a list of facet names. -/
def checkFacetList (names : List Datum) : Checked (List String × Facets) :=
  match Facets.ofNames names with
  | .ok facets => .ok (names.filterMap Datum.text?, facets)
  | .error error => faulty "syntax" (.facet error)

/-- Checks the facet names, of which a single one may stand without a list. Without the field there
are none. -/
def checkFacetNames : Option Datum → Checked (List String × Facets)
  | none => .ok ([], .none)
  | some (.text s) => checkFacetList [.text s]
  | some (.list names) | some (.tuple names) => checkFacetList names
  | some _ => faulty "syntax" .facetsNotList

/-- Checks all fields of an entry. -/
def Entry.ofFields (fields : List (Datum × Datum)) : Checked Entry :=
  let kind := checkKind (Datum.find? fields "kind")
  let name := checkName (Datum.find? fields "name")
  let aliases := checkAliases (Datum.find? fields "aliases")
  let facetNames := checkFacetNames (Datum.find? fields "syntax")
  match kind, name, aliases, facetNames with
  | .ok kind, .ok name, .ok aliases, .ok (facetNames, facets) =>
    .ok { kind, name, aliases, facetNames, facets }
  | _, _, _, _ => .error (kind.faults ++ name.faults ++ aliases.faults ++ facetNames.faults)

/-- The definition that an entry describes. -/
def Entry.toDefinition (entry : Entry) : Except DraftError Definition :=
  Definition.ofKind entry.kind (.text entry.name) (entry.aliases.map .text) (.facets entry.facets)

/-- Why a list of entries describes no definitions. Positions count from zero. -/
inductive EntryError where
  /-- The entry is no mapping. -/
  | notMapping (position : Nat) (found : Datum)
  /-- The entry has a key that is no text. -/
  | keyNotText
  /-- Fields of the entry are at fault. -/
  | invalid (position : Nat) (name : Option Datum) (faults : List FieldFault)
  /-- Fields of the entry are at fault, and its name does not show. -/
  | unwritable
  /-- The entry passes, but describes no definition. -/
  | draft (error : DraftError)

/-- The wording of an entry error, without the list of faults. A key that is no text is refused
without words. -/
def EntryError.message : EntryError → String
  | .notMapping position found =>
    "Argument #" ++ Text.decimal position ++ " must be a mapping, got " ++ found.typeName
  | .keyNotText => ""
  | .invalid position name _ =>
    "Invalid argument #" ++ Text.decimal position ++ " (" ++
      (name.map Datum.display).getD "?" ++ "): "
  | .unwritable => Text.tooManyDigits
  | .draft error => error.message

/-- The definition that a value describes, which stands at a position of the list of entries. -/
def readEntry (position : Nat) : Datum → Except EntryError Definition
  | .mapping fields =>
    if fields.any fun field => field.1.text?.isNone then .error .keyNotText
    else
      match Entry.ofFields fields with
      | .ok entry => entry.toDefinition.mapError .draft
      | .error faults =>
        let name := Datum.find? fields "name"
        .error (if name.all Datum.isWritable then .invalid position name faults else .unwritable)
  | d => .error (.notMapping position d)

/-- The definitions that values describe, counted from a position. The first value at fault decides
the error. -/
def readEntriesFrom (position : Nat) : List Datum → Except EntryError (List Definition)
  | [] => .ok []
  | d :: rest => do
    let definition ← readEntry position d
    let definitions ← readEntriesFrom (position + 1) rest
    return definition :: definitions

/-- The definitions that a list of values describes. -/
def readEntries (entries : List Datum) : Except EntryError (List Definition) :=
  readEntriesFrom 0 entries

end ArgScan.Settings
