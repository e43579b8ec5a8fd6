import ArgScan.Definition

/-!
# Drafts of definitions

A draft holds the parts of a definition as they were given, of any shape. `Draft.toDefinition`
checks them in the order kind, name, aliases, facets; the first part at fault decides the error.
What passes is a definition, so its names are known not to be empty.

Errors quote the value at fault. A name, an alias or facets that do not show, because a number in
them has too many digits, are refused for that, with an error of its own.
-/

namespace ArgScan

/-- The kind of a draft: a kind, or a value that is meant to name one. -/
inductive KindField where
  | kind (kind : Kind)
  | named (found : Datum)

/-- A value stands where a kind is meant. -/
instance : Coe Datum KindField := ⟨.named⟩

/-- The facets of a draft: facets, or a value that is something else. -/
inductive FacetsField where
  | facets (facets : Facets)
  | other (found : Datum)

/-- The parts of a definition as they were given. -/
structure Draft where
  /-- What is meant to be the kind. -/
  kind : KindField
  /-- What is meant to be the name. -/
  name : Datum
  /-- What is meant to be the aliases. -/
  aliases : Datum := .tuple []
  /-- What is meant to be the facets. -/
  facets : FacetsField := .facets .none

/-- Why a draft is no definition. -/
inductive DraftError where
  /-- The kind is at fault. -/
  | badKind (error : KindError)
  /-- The name is no text, or the empty one. -/
  | badName (found : Datum)
  /-- The aliases are a single text. -/
  | aliasesText (name found : String)
  /-- The aliases are a value that holds no values. -/
  | aliasesNotIterable
  /-- An alias is no text, or the empty one. -/
  | badAlias (name : String) (found : Datum)
  /-- The facets are something else. -/
  | badFacets (name : String) (found : Datum)
  /-- The name, an alias or the facets are at fault, and do not show. -/
  | unwritable

/-- The wording of a draft error. Aliases that hold no values are refused without words. -/
def DraftError.message : DraftError → String
  | .badKind error => error.message
  | .badName found => "Argument name must be a non-empty string, got " ++ found.literal
  | .aliasesText name found =>
    "Aliases for '" ++ name ++ "' must be a sequence of strings, got the string " ++
      Text.quoted found
  | .aliasesNotIterable => ""
  | .badAlias name found =>
    "Alias for '" ++ name ++ "' must be a non-empty string, got " ++ found.literal
  | .badFacets name found =>
    "opts for '" ++ name ++ "' must be SyntaxOptions, got " ++ found.literal
  | .unwritable => Text.tooManyDigits

/-- The error that quotes a value, or the refusal to write it. -/
def DraftError.quoting (found : Datum) (error : DraftError) : DraftError :=
  if found.isWritable then error else .unwritable

/-- A text that is not empty. -/
abbrev NonemptyText := { s : String // s ≠ "" }

/-- The text that a value is, if it is one and not empty. -/
def Datum.nonemptyText? : Datum → Option NonemptyText
  | .text s => if h : s = "" then none else some ⟨s, h⟩
  | _ => none

namespace Draft

/-- Checks what is meant to be the kind. -/
def checkKind : KindField → Except DraftError Kind
  | .kind kind => .ok kind
  | .named found => (Kind.ofDatum found).mapError .badKind

/-- Checks a name. -/
def checkName (found : Datum) : Except DraftError NonemptyText :=
  match found.nonemptyText? with
  | some s => .ok s
  | none => .error (.quoting found (.badName found))

/-- Checks the aliases of a name one by one. -/
def checkAliasList (name : String) (found : List Datum) : Except DraftError (List NonemptyText) :=
  found.mapM fun d =>
    match d.nonemptyText? with
    | some s => .ok s
    | none => .error (.quoting d (.badAlias name d))

/-- Checks what is meant to be the aliases of a name. A single text is refused, although it has
characters to go through. -/
def checkAliases (name : String) : Datum → Except DraftError (List NonemptyText)
  | .text s => .error (.aliasesText name s)
  | d =>
    match d.items? with
    | some items => checkAliasList name items
    | none => .error .aliasesNotIterable

/-- Checks what is meant to be the facets of a name. -/
def checkFacets (name : String) : FacetsField → Except DraftError Facets
  | .facets f => .ok f
  | .other found => .error (.quoting found (.badFacets name found))

/-- The aliases of a definition, from texts that are not empty. -/
theorem map_val_ne (texts : List NonemptyText) : ∀ a ∈ texts.map Subtype.val, a ≠ "" := by
  intro a ha
  obtain ⟨text, _, rfl⟩ := List.mem_map.1 ha
  exact text.2

/-- The definition that a draft describes. -/
def toDefinition (draft : Draft) : Except DraftError Definition := do
  let kind ← checkKind draft.kind
  let name ← checkName draft.name
  let aliases ← checkAliases name draft.aliases
  let facets ← checkFacets name draft.facets
  return {
    kind, name := name.1, aliases := aliases.map Subtype.val, facets
    name_ne := name.2, alias_ne := map_val_ne aliases }

end Draft

namespace Definition

/-- A definition of the given kind, from its other parts as they were given. -/
def ofKind (kind : Kind) (name : Datum) (aliases : List Datum)
    (facets : FacetsField := .facets .none) : Except DraftError Definition :=
  Draft.toDefinition { kind := .kind kind, name, aliases := .tuple aliases, facets }

/-- The definition with other aliases. -/
def withAliases (d : Definition) (aliases : List Datum) : Except DraftError Definition := do
  let aliases ← Draft.checkAliasList d.name aliases
  return { d with aliases := aliases.map Subtype.val, alias_ne := Draft.map_val_ne aliases }

/-- The definition with other facets. -/
def withFacets (d : Definition) (facets : FacetsField) : Except DraftError Definition := do
  let facets ← Draft.checkFacets d.name facets
  return { d with facets }

/-- The first definition that has a name, which may be given with any number of hyphens before
it. -/
def find? (definitions : List Definition) (query : String) : Option Definition :=
  let name := String.ofList (query.toList.dropWhile (· = '-'))
  definitions.find? fun d => d.isNamed name

end Definition

end ArgScan
