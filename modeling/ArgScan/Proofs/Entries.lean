import ArgScan.Proofs.Drafts
import ArgScan.Settings.Entry
import Mathlib.Data.List.Forall2

/-!
# Which entries describe definitions

An entry of a settings file passes several checks before it is a definition: it must be a mapping
with texts for keys, each field is checked by itself, and the parts are checked once more when the
definition is made. This module says what all of them amount to for entries of the values that JSON
has (`Datum.IsJson`). `HasParts` states what the fields say in one place, without any check, and
each check of a field is shown to accept exactly this (`checkKind_eq_ok_iff` and the lemmas after
it). The second round of checks can then refuse an empty alias and nothing else
(`Entry.toDefinition_eq_ok_iff`, `Entry.toDefinition_of_empty_alias`).

A list of entries is read one by one, and the first that describes no definition decides the error
(`readEntriesFrom_append_of_error`), of which `Refuses` says the kind and the words.
-/

namespace ArgScan

/-- A value of the kinds that JSON has. The keys of a mapping may be any values. -/
inductive Datum.IsJson : Datum → Prop
  /-- The absent value. -/
  | null : IsJson .null
  /-- A truth value. -/
  | bool (b : Bool) : IsJson (.bool b)
  /-- A whole number. -/
  | int (n : Int) : IsJson (.int n)
  /-- A number with a fraction or an exponent. -/
  | decimal (written : String) : IsJson (.decimal written)
  /-- A text. -/
  | text (s : String) : IsJson (.text s)
  /-- A list of such values. -/
  | list {items : List Datum} (h : ∀ d ∈ items, IsJson d) : IsJson (.list items)
  /-- A mapping to such values. -/
  | mapping {fields : List (Datum × Datum)} (h : ∀ field ∈ fields, IsJson field.2) :
    IsJson (.mapping fields)

/-- What is found in a mapping is the value of one of its entries. -/
theorem Datum.exists_mem_of_find? {fields : List (Datum × Datum)} {key : String} {d : Datum}
    (h : find? fields key = some d) : ∃ field ∈ fields, field.2 = d := by
  obtain ⟨⟨k, value⟩, hmem, hvalue⟩ := List.exists_of_findSome?_eq_some h
  refine ⟨(k, value), hmem, ?_⟩
  cases k with
  | text s =>
    by_cases hs : s = key
    · simpa [hs] using hvalue
    · simp [hs] at hvalue
  | _ => simp at hvalue

namespace Settings

/-! ## What fields say -/

/-- The texts that the field of the aliases lists: none if it is missing. -/
inductive AreAliases : Option Datum → List String → Prop
  /-- The field is missing. -/
  | missing : AreAliases none []
  /-- The field is a list of texts. -/
  | list (texts : List String) : AreAliases (some (.list (texts.map .text))) texts

/-- The texts that the field of the facet names lists: none if it is missing, and one if it is a
text by itself. -/
inductive AreFacetNames : Option Datum → List String → Prop
  /-- The field is missing. -/
  | missing : AreFacetNames none []
  /-- The field is a text. -/
  | single (s : String) : AreFacetNames (some (.text s)) [s]
  /-- The field is a list of texts. -/
  | list (texts : List String) : AreFacetNames (some (.list (texts.map .text))) texts

/-- What the fields of an entry say. The name and the aliases may still be empty. -/
structure HasParts (fields : List (Datum × Datum)) (kind : Kind) (name : String)
    (aliases : List String) (facets : Facets) : Prop where
  /-- All keys are texts. -/
  keys : ∀ field ∈ fields, ∃ key, field.1 = .text key
  /-- The kind is a text that names a kind. -/
  kind : ∃ word, Datum.find? fields "kind" = some (.text word) ∧ Kind.ofText? word = some kind
  /-- The name is a text. -/
  name : Datum.find? fields "name" = some (.text name)
  /-- The aliases are texts. -/
  aliases : AreAliases (Datum.find? fields "aliases") aliases
  /-- The facet names are texts that all name facets. -/
  facets : ∃ names, AreFacetNames (Datum.find? fields "syntax") names ∧
    Facets.ofNames (names.map .text) = .ok facets

/-- An entry describes a definition: it is a mapping whose fields say the parts of the definition,
the name and the aliases of which are not empty. -/
def Describes (entry : Datum) (d : Definition) : Prop :=
  ∃ fields, entry = .mapping fields ∧ HasParts fields d.kind d.name d.aliases d.facets

/-- An entry is a mapping with texts for keys, and its name does not show: there is a number of too
many digits in it. -/
def HidesName (entry : Datum) : Prop :=
  ∃ fields d, entry = .mapping fields ∧ (∀ field ∈ fields, ∃ key, field.1 = .text key) ∧
    Datum.find? fields "name" = some d ∧ d.isWritable = false

/-- The message of the error begins with the position of an entry. -/
def EntryError.CarriesPosition (error : EntryError) (position : Nat) : Prop :=
  ∃ start ∈ ["Argument #", "Invalid argument #"], ∃ rest,
    error.message = start ++ Text.decimal position ++ " " ++ rest

/-- The error with which an entry at a position is refused. -/
inductive Refuses (position : Nat) : Datum → EntryError → Prop
  /-- The entry is no mapping. -/
  | notMapping {entry : Datum} (h : ∀ fields, entry ≠ .mapping fields) :
    Refuses position entry (.notMapping position entry)
  /-- A key of the entry is no text, whatever its fields say. -/
  | keyNotText {fields : List (Datum × Datum)} (h : ∃ field ∈ fields, ∀ key, field.1 ≠ .text key) :
    Refuses position (.mapping fields) .keyNotText
  /-- The entry would describe a definition, were it not for empty aliases. -/
  | emptyAlias {fields : List (Datum × Datum)} {kind : Kind} {name : String} {aliases : List String}
    {facets : Facets} (h : HasParts fields kind name aliases facets) (hname : name ≠ "")
    (hempty : "" ∈ aliases) :
    Refuses position (.mapping fields) (.draft (.badAlias name (.text "")))
  /-- Fields of the entry are at fault in another way. -/
  | invalid {fields : List (Datum × Datum)} {faults : List FieldFault}
    (hkeys : ∀ field ∈ fields, ∃ key, field.1 = .text key)
    (hparts : ∀ kind name aliases facets, HasParts fields kind name aliases facets → name = "")
    (hname : ¬ HidesName (.mapping fields)) :
    Refuses position (.mapping fields) (.invalid position (Datum.find? fields "name") faults)
  /-- The name of the entry does not show, so it is no text. -/
  | unwritable {entry : Datum} (h : HidesName entry) : Refuses position entry .unwritable

/-! ## The checks of the fields -/

/-- The kind passes exactly if it is a text that names it. -/
theorem checkKind_eq_ok_iff {field : Option Datum} {kind : Kind} :
    checkKind field = .ok kind ↔
      ∃ word, field = some (.text word) ∧ Kind.ofText? word = some kind := by
  cases field with
  | none => simp [checkKind, faulty]
  | some d =>
    cases d with
    | text word => cases h : Kind.ofText? word <;> simp [checkKind, Kind.ofDatum, faulty, h]
    | _ => simp [checkKind, Kind.ofDatum, faulty]

/-- A value of JSON stands for a text exactly if it is one. -/
theorem textOf_eq_ok_iff {d : Datum} (hd : d.IsJson) {s : String} :
    textOf d = .ok s ↔ d = .text s := by
  cases hd <;> simp [textOf]

/-- The name passes exactly if it is a text, and not empty. -/
theorem checkName_eq_ok_iff {field : Option Datum} (hfield : ∀ d, field = some d → d.IsJson)
    {name : NonemptyText} : checkName field = .ok name ↔ field = some (.text name) := by
  cases field with
  | none => simp [checkName, faulty]
  | some d =>
    cases hfield d rfl with
    | text s =>
      by_cases hs : s = ""
      · have hne : "" ≠ name.1 := name.2.symm
        simp [checkName, textOf, faulty, hs, hne]
      · simp [checkName, textOf, hs, Subtype.ext_iff]
    | _ => simp [checkName, textOf, faulty]

/-- Aliases are without faults exactly if all of them are texts. -/
theorem aliasFaults_eq_nil_iff {items : List Datum} (hitems : ∀ d ∈ items, d.IsJson) (index : Nat) :
    aliasFaults index items = [] ↔ ∃ texts : List String, items = texts.map .text := by
  induction items generalizing index with
  | nil => exact ⟨fun _ => ⟨[], rfl⟩, fun _ => rfl⟩
  | cons d rest ih =>
    obtain ⟨hd, hrest⟩ := List.forall_mem_cons.1 hitems
    cases htext : textOf d with
    | ok s =>
      obtain rfl := (textOf_eq_ok_iff hd).1 htext
      simp only [aliasFaults, htext, ih hrest]
      constructor
      · rintro ⟨texts, rfl⟩
        exact ⟨s :: texts, rfl⟩
      · rintro ⟨texts, htexts⟩
        obtain ⟨s', texts', rfl, -, htexts'⟩ := List.map_eq_cons_iff.1 htexts.symm
        exact ⟨texts', htexts'.symm⟩
    | error fault =>
      simp only [aliasFaults, htext, reduceCtorEq, false_iff]
      rintro ⟨texts, htexts⟩
      obtain ⟨s, texts', rfl, rfl, -⟩ := List.map_eq_cons_iff.1 htexts.symm
      exact nomatch htext

/-- The texts that texts stand for. -/
theorem filterMap_textOf_map_text (texts : List String) :
    (texts.map Datum.text).filterMap (fun d => (textOf d).toOption) = texts := by
  rw [List.filterMap_map]
  exact List.filterMap_some

/-- The aliases pass exactly if they are missing or a list of texts. -/
theorem checkAliases_eq_ok_iff {field : Option Datum} (hfield : ∀ d, field = some d → d.IsJson)
    {aliases : List String} : checkAliases field = .ok aliases ↔ AreAliases field aliases := by
  cases field with
  | none =>
    constructor
    · intro h
      obtain rfl := Except.ok.inj h
      exact .missing
    · rintro ⟨⟩
      rfl
  | some d =>
    cases hfield d rfl with
    | list hitems =>
      rename_i items
      constructor
      · intro h
        simp only [checkAliases] at h
        split at h
        · rename_i hfaults
          obtain ⟨texts, rfl⟩ := (aliasFaults_eq_nil_iff hitems 0).1 hfaults
          rw [filterMap_textOf_map_text] at h
          obtain rfl := Except.ok.inj h
          exact .list texts
        · exact nomatch h
      · rintro ⟨⟩
        have hfaults := (aliasFaults_eq_nil_iff hitems 0).2 ⟨aliases, rfl⟩
        simp only [checkAliases, hfaults, filterMap_textOf_map_text]
    | _ =>
      simp only [checkAliases, faulty, reduceCtorEq, false_iff]
      rintro ⟨⟩

/-- A value that names a facet is a text. -/
theorem exists_text_of_ofDatum {d : Datum} {f : Facet} (h : Facet.ofDatum d = .ok f) :
    ∃ s, d = .text s := by
  cases d with
  | text s => exact ⟨s, rfl⟩
  | _ => exact nomatch h

/-- Values that all name facets are texts. -/
theorem exists_texts_of_ofNames {names : List Datum} {facets : Facets}
    (h : Facets.ofNames names = .ok facets) : ∃ texts : List String, names = texts.map .text := by
  unfold Facets.ofNames at h
  -- The facets joined so far play no part.
  generalize Facets.none = soFar at h
  induction names generalizing soFar with
  | nil => exact ⟨[], rfl⟩
  | cons d rest ih =>
    rw [List.foldlM_cons] at h
    cases hd : Facet.ofDatum d with
    | error error => simp [hd, bind, Except.bind] at h
    | ok f =>
      simp only [hd, bind, Except.bind, pure, Except.pure] at h
      obtain ⟨s, rfl⟩ := exists_text_of_ofDatum hd
      obtain ⟨texts, rfl⟩ := ih _ h
      exact ⟨s :: texts, rfl⟩

/-- A list of facet names passes exactly if all of them are texts that name facets. -/
theorem checkFacetList_eq_ok_iff {names : List Datum} {texts : List String} {facets : Facets} :
    checkFacetList names = .ok (texts, facets) ↔
      names = texts.map .text ∧ Facets.ofNames (texts.map .text) = .ok facets := by
  have hfilter : ∀ texts : List String, (texts.map Datum.text).filterMap Datum.text? = texts := by
    intro texts
    rw [List.filterMap_map]
    exact List.filterMap_some
  unfold checkFacetList
  constructor
  · intro h
    cases hnames : Facets.ofNames names with
    | error error => simp [hnames, faulty] at h
    | ok facets' =>
      obtain ⟨texts', rfl⟩ := exists_texts_of_ofNames hnames
      simp only [hnames, hfilter, Except.ok.injEq, Prod.mk.injEq] at h
      obtain ⟨rfl, rfl⟩ := h
      exact ⟨rfl, hnames⟩
  · rintro ⟨rfl, hfacets⟩
    simp only [hfacets, hfilter]

/-- The facet names pass exactly if they are missing, or a text, or a list of texts, and all of them
name facets. -/
theorem checkFacetNames_eq_ok_iff {field : Option Datum} (hfield : ∀ d, field = some d → d.IsJson)
    {names : List String} {facets : Facets} :
    checkFacetNames field = .ok (names, facets) ↔
      AreFacetNames field names ∧ Facets.ofNames (names.map .text) = .ok facets := by
  cases field with
  | none =>
    constructor
    · intro h
      obtain ⟨rfl, rfl⟩ := Prod.mk.inj (Except.ok.inj h)
      exact ⟨.missing, rfl⟩
    · rintro ⟨⟨⟩, h⟩
      obtain rfl := Except.ok.inj h
      rfl
  | some d =>
    cases hfield d rfl with
    | text s =>
      rw [checkFacetNames, checkFacetList_eq_ok_iff]
      constructor
      · rintro ⟨hnames, h⟩
        obtain rfl : names = [s] := by
          rw [← List.map_singleton] at hnames
          exact (Datum.map_text_inj.1 hnames).symm
        exact ⟨.single s, h⟩
      · rintro ⟨⟨⟩, h⟩
        exact ⟨rfl, h⟩
    | list hitems =>
      rw [checkFacetNames, checkFacetList_eq_ok_iff]
      constructor
      · rintro ⟨rfl, h⟩
        exact ⟨.list names, h⟩
      · rintro ⟨⟨⟩, h⟩
        exact ⟨rfl, h⟩
    | _ =>
      simp only [checkFacetNames, faulty, reduceCtorEq, false_iff, not_and]
      rintro ⟨⟩

/-- The facets of facet names that pass are those that the names stand for, however often they are
looked up. -/
theorem ofNames_of_checkFacetNames {field : Option Datum} {names : List String} {facets : Facets}
    (h : checkFacetNames field = .ok (names, facets)) :
    Facets.ofNames (names.map .text) = .ok facets := by
  unfold checkFacetNames at h
  split at h
  · obtain ⟨rfl, rfl⟩ := Prod.mk.inj (Except.ok.inj h)
    rfl
  · exact (checkFacetList_eq_ok_iff.1 h).2
  · exact (checkFacetList_eq_ok_iff.1 h).2
  · exact (checkFacetList_eq_ok_iff.1 h).2
  · exact nomatch h

/-! ## One entry -/

/-- The fields of an entry pass exactly if each of them does. -/
theorem Entry.ofFields_eq_ok_iff {fields : List (Datum × Datum)} {entry : Entry} :
    Entry.ofFields fields = .ok entry ↔
      checkKind (Datum.find? fields "kind") = .ok entry.kind ∧
        checkName (Datum.find? fields "name") = .ok entry.name ∧
        checkAliases (Datum.find? fields "aliases") = .ok entry.aliases ∧
        checkFacetNames (Datum.find? fields "syntax") = .ok (entry.facetNames, entry.facets) := by
  obtain ⟨kind, name, aliases, facetNames, facets⟩ := entry
  unfold ofFields
  cases checkKind (Datum.find? fields "kind") <;> cases checkName (Datum.find? fields "name") <;>
    cases checkAliases (Datum.find? fields "aliases") <;>
    cases checkFacetNames (Datum.find? fields "syntax") <;> simp [Prod.ext_iff]

section Json

variable {fields : List (Datum × Datum)} (hjson : (Datum.mapping fields).IsJson)

include hjson

/-- The fields of an entry hold values of JSON. -/
theorem isJson_of_find? (key : String) : ∀ d, Datum.find? fields key = some d → d.IsJson := by
  intro d hd
  obtain ⟨field, hmem, rfl⟩ := Datum.exists_mem_of_find? hd
  cases hjson with
  | mapping hfields => exact hfields field hmem

/-- The fields of an entry whose keys are texts pass exactly if they say its parts, and the name is
not empty. -/
theorem Entry.exists_ofFields_iff (hkeys : ∀ field ∈ fields, ∃ key, field.1 = .text key)
    {kind : Kind} (name : NonemptyText) {aliases : List String} {facets : Facets} :
    (∃ facetNames, Entry.ofFields fields = .ok { kind, name, aliases, facetNames, facets }) ↔
      HasParts fields kind name aliases facets := by
  simp only [Entry.ofFields_eq_ok_iff, checkKind_eq_ok_iff,
    checkName_eq_ok_iff (isJson_of_find? hjson "name"),
    checkAliases_eq_ok_iff (isJson_of_find? hjson "aliases"),
    checkFacetNames_eq_ok_iff (isJson_of_find? hjson "syntax")]
  constructor
  · rintro ⟨names, hkind, hname, haliases, hfacets⟩
    exact ⟨hkeys, hkind, hname, haliases, names, hfacets⟩
  · rintro ⟨-, hkind, hname, haliases, names, hfacets⟩
    exact ⟨names, hkind, hname, haliases, hfacets⟩

end Json

/-! ## From an entry to a definition -/

/-- An entry without empty aliases becomes the definition with its parts. -/
theorem Entry.toDefinition_eq_ok_iff {entry : Entry} {d : Definition} :
    entry.toDefinition = .ok d ↔
      d.kind = entry.kind ∧ d.name = entry.name ∧ d.aliases = entry.aliases ∧
        d.facets = entry.facets := by
  unfold toDefinition Definition.ofKind
  rw [Draft.toDefinition_eq_ok_iff]
  constructor
  · rintro ⟨hkind, hname, -, haliases, hfacets⟩
    have haliases := Datum.map_text_inj.1 (Option.some.inj haliases)
    exact ⟨KindField.gives_kind_iff.1 hkind, (Datum.text.inj hname).symm, haliases.symm,
      (FacetsField.facets.inj hfacets).symm⟩
  · rintro ⟨hkind, hname, haliases, hfacets⟩
    refine ⟨KindField.gives_kind_iff.2 hkind, ?_, nofun, ?_, ?_⟩
    · rw [hname]
    · rw [haliases]
      rfl
    · rw [hfacets]

/-- An entry with an empty alias is refused for it. -/
theorem Entry.toDefinition_of_empty_alias {entry : Entry} (h : "" ∈ entry.aliases) :
    entry.toDefinition = .error (.badAlias entry.name (.text "")) := by
  obtain ⟨before, after, hsplit, hbefore⟩ := List.eq_append_cons_of_mem h
  have hitems : entry.aliases.map Datum.text =
      before.map .text ++ .text "" :: after.map .text := by
    rw [hsplit, List.map_append, List.map_cons]
  have hne : ∀ s ∈ before, s ≠ "" := fun s hs hempty => hbefore (hempty ▸ hs)
  unfold toDefinition Definition.ofKind
  have hquotes : Draft.Quotes ⟨.kind entry.kind, .text entry.name,
      .tuple (entry.aliases.map .text), .facets entry.facets⟩ (.text "")
      (.badAlias entry.name (.text "")) :=
    .oneAlias ⟨⟨entry.kind, .kind entry.kind⟩, rfl, entry.name.2⟩ nofun (congrArg some hitems)
      (Datum.isName_of_mem_map_text hne) (by decide)
  exact Draft.toDefinition_of_refuses (.quoted hquotes rfl)

/-! ## Reading an entry -/

/-- What has keys that are all texts has none that is no text. -/
theorem any_isNone_eq_false_iff {fields : List (Datum × Datum)} :
    (fields.any fun field => field.1.text?.isNone) = false ↔
      ∀ field ∈ fields, ∃ key, field.1 = .text key := by
  rw [List.any_eq_false]
  refine forall₂_congr fun field _ => ?_
  cases field.1 <;> simp [Datum.text?]

/-- A mapping with a key that is no text is refused for it. -/
theorem readEntry_of_not_keys {fields : List (Datum × Datum)}
    (hkeys : ¬ ∀ field ∈ fields, ∃ key, field.1 = .text key) (position : Nat) :
    readEntry position (.mapping fields) = .error .keyNotText := by
  have hsome : (fields.any fun field => field.1.text?.isNone) = true :=
    eq_true_of_ne_false (mt any_isNone_eq_false_iff.1 hkeys)
  simp only [readEntry, hsome, if_true]

section Keys

variable {fields : List (Datum × Datum)} (hkeys : ∀ field ∈ fields, ∃ key, field.1 = .text key)

include hkeys

/-- A mapping whose fields pass is read as the definition that they describe. -/
theorem readEntry_of_ofFields {entry : Entry} (h : Entry.ofFields fields = .ok entry)
    (position : Nat) :
    readEntry position (.mapping fields) = entry.toDefinition.mapError .draft := by
  have hnone := any_isNone_eq_false_iff.2 hkeys
  simp only [readEntry, hnone, Bool.false_eq_true, if_false, h]

/-- The name of a mapping does not show exactly if there is one that does not. -/
theorem hidesName_iff :
    HidesName (.mapping fields) ↔
      ¬ (Datum.find? fields "name").all Datum.isWritable = true := by
  constructor
  · rintro ⟨fields', d, hfields, -, hname, hwritable⟩
    obtain rfl := Datum.mapping.inj hfields
    rw [hname, Option.all_some, hwritable]
    exact Bool.false_ne_true
  · intro h
    cases hname : Datum.find? fields "name" with
    | none =>
      rw [hname] at h
      exact absurd rfl h
    | some d =>
      rw [hname] at h
      exact ⟨fields, d, rfl, hkeys, hname, eq_false_of_ne_true h⟩

/-- A mapping whose fields do not pass is refused with their faults, unless its name does not show.
-/
theorem readEntry_of_faults {faults : List FieldFault} (h : Entry.ofFields fields = .error faults)
    (position : Nat) :
    readEntry position (.mapping fields) =
      .error (if (Datum.find? fields "name").all Datum.isWritable then
        .invalid position (Datum.find? fields "name") faults else .unwritable) := by
  have hnone := any_isNone_eq_false_iff.2 hkeys
  simp only [readEntry, hnone, Bool.false_eq_true, if_false, h]

end Keys

/-- An entry that is no mapping is refused for it. -/
theorem readEntry_of_not_mapping {e : Datum} (h : ∀ fields, e ≠ .mapping fields) (position : Nat) :
    readEntry position e = .error (.notMapping position e) := by
  cases e with
  | mapping fields => exact absurd rfl (h fields)
  | _ => rfl

/-- An entry that describes a definition is read as that definition. -/
theorem Describes.readEntry_eq {e : Datum} {d : Definition} (h : Describes e d) (he : e.IsJson)
    (position : Nat) : readEntry position e = .ok d := by
  obtain ⟨fields, rfl, hparts⟩ := h
  have hname : d.name ≠ "" := d.name_ne
  obtain ⟨facetNames, hentry⟩ :=
    (Entry.exists_ofFields_iff he hparts.keys ⟨d.name, hname⟩).2 hparts
  rw [readEntry_of_ofFields hparts.keys hentry, Entry.toDefinition_eq_ok_iff.2 ⟨rfl, rfl, rfl, rfl⟩]
  rfl

/-- An entry is read as a definition that it describes, or it is refused. -/
theorem describes_or_refuses {e : Datum} (he : e.IsJson) (position : Nat) :
    (∃ d, readEntry position e = .ok d ∧ Describes e d) ∨
      ∃ error, readEntry position e = .error error ∧ Refuses position e error := by
  by_cases hmapping : ∃ fields, e = .mapping fields
  · obtain ⟨fields, rfl⟩ := hmapping
    by_cases hkeys : ∀ field ∈ fields, ∃ key, field.1 = .text key
    · cases hentry : Entry.ofFields fields with
      | error faults =>
        have hread := readEntry_of_faults hkeys hentry position
        have hhides := hidesName_iff hkeys
        by_cases hwritable : (Datum.find? fields "name").all Datum.isWritable = true
        · rw [if_pos hwritable] at hread
          refine .inr ⟨_, hread, .invalid hkeys ?_ fun h => hhides.1 h hwritable⟩
          -- With a name that is not empty the fields would have passed.
          intro kind name aliases facets hparts
          by_contra hname
          obtain ⟨facetNames, hentry'⟩ :=
            (Entry.exists_ofFields_iff he hkeys ⟨name, hname⟩).2 hparts
          rw [hentry] at hentry'
          exact nomatch hentry'
        · rw [if_neg hwritable] at hread
          exact .inr ⟨_, hread, .unwritable (hhides.2 hwritable)⟩
      | ok entry =>
        have hparts := (Entry.exists_ofFields_iff he hkeys entry.name).1 ⟨_, hentry⟩
        have hread := readEntry_of_ofFields hkeys hentry position
        by_cases hempty : "" ∈ entry.aliases
        · rw [Entry.toDefinition_of_empty_alias hempty] at hread
          exact .inr ⟨_, hread, .emptyAlias hparts entry.name.2 hempty⟩
        · let d : Definition :=
            { kind := entry.kind, name := entry.name, aliases := entry.aliases
              facets := entry.facets, name_ne := entry.name.2
              alias_ne := fun a ha h => hempty (h ▸ ha) }
          have hdefinition : entry.toDefinition = .ok d :=
            Entry.toDefinition_eq_ok_iff.2 ⟨rfl, rfl, rfl, rfl⟩
          rw [hdefinition] at hread
          exact .inl ⟨d, hread, fields, rfl, hparts⟩
    · refine .inr ⟨_, readEntry_of_not_keys hkeys position, .keyNotText ?_⟩
      push Not at hkeys
      exact hkeys
  · push Not at hmapping
    exact .inr ⟨_, readEntry_of_not_mapping hmapping position, .notMapping hmapping⟩

/-- An entry is read as a definition exactly if it describes it. -/
theorem readEntry_eq_ok_iff {e : Datum} (he : e.IsJson) (position : Nat) {d : Definition} :
    readEntry position e = .ok d ↔ Describes e d := by
  refine ⟨fun h => ?_, fun h => h.readEntry_eq he position⟩
  rcases describes_or_refuses he position with ⟨d', hd', hdescribes⟩ | ⟨error, herror, -⟩
  · obtain rfl := Except.ok.inj (h.symm.trans hd')
    exact hdescribes
  · rw [h] at herror
    exact nomatch herror

/-- An entry that describes no definition is refused. -/
theorem exists_refuses {e : Datum} (he : e.IsJson) (position : Nat) (h : ¬ ∃ d, Describes e d) :
    ∃ error, readEntry position e = .error error ∧ Refuses position e error :=
  (describes_or_refuses he position).resolve_left fun ⟨d, _, hd⟩ => h ⟨d, hd⟩

/-- An entry is refused for a name that does not show exactly if its name does not, whatever else is
at fault in it. -/
theorem Refuses.eq_unwritable_iff {position : Nat} {e : Datum} {error : EntryError}
    (h : Refuses position e error) : error = .unwritable ↔ HidesName e := by
  cases h with
  | unwritable h => exact ⟨fun _ => h, fun _ => rfl⟩
  | invalid hkeys hparts hname => exact ⟨nofun, fun h => absurd h hname⟩
  | notMapping h =>
    refine ⟨nofun, ?_⟩
    rintro ⟨fields, d, hfields, -⟩
    exact absurd hfields (h fields)
  | keyNotText h =>
    obtain ⟨field, hfield, hkey⟩ := h
    refine ⟨nofun, ?_⟩
    rintro ⟨fields, d, hfields, hkeys, -⟩
    obtain rfl := Datum.mapping.inj hfields
    obtain ⟨key, hkey'⟩ := hkeys field hfield
    exact absurd hkey' (hkey key)
  | emptyAlias h =>
    -- The name is a text, and texts show.
    refine ⟨nofun, ?_⟩
    rintro ⟨fields, d, hfields, -, hname, hwritable⟩
    obtain rfl := Datum.mapping.inj hfields
    obtain rfl := Option.some.inj (h.name.symm.trans hname)
    exact nomatch hwritable

/-- The error about an entry begins with its position, unless it is about a key that is no text, an
empty alias or a name that does not show. -/
theorem Refuses.carriesPosition {position : Nat} {e : Datum} {error : EntryError}
    (h : Refuses position e error) :
    error.CarriesPosition position ∨ error = .keyNotText ∨ error = .unwritable ∨
      ∃ name, error = .draft (.badAlias name (.text "")) := by
  cases h with
  | notMapping h =>
    refine .inl ⟨"Argument #", List.mem_cons_self, "must be a mapping, got " ++ e.typeName, ?_⟩
    calc EntryError.message (.notMapping position e)
        = "Argument #" ++ Text.decimal position ++ (" " ++ "must be a mapping, got ") ++
            e.typeName := rfl
      _ = _ := by simp only [String.append_assoc]
  | keyNotText h => exact .inr (.inl rfl)
  | emptyAlias h hname hempty => exact .inr (.inr (.inr ⟨_, rfl⟩))
  | unwritable h => exact .inr (.inr (.inl rfl))
  | @invalid fields faults hkeys hparts hname =>
    let name := ((Datum.find? fields "name").map Datum.display).getD "?"
    refine .inl ⟨"Invalid argument #", List.mem_cons_of_mem _ List.mem_cons_self,
      "(" ++ name ++ "): ", ?_⟩
    calc EntryError.message (.invalid position (Datum.find? fields "name") faults)
        = "Invalid argument #" ++ Text.decimal position ++ (" " ++ "(") ++ name ++ "): " := rfl
      _ = _ := by simp only [String.append_assoc]

/-! ## Lists of entries -/

/-- An entry at fault gives its error for the whole list. -/
theorem readEntriesFrom_of_error {position : Nat} {e : Datum} {error : EntryError}
    (h : readEntry position e = .error error) (rest : List Datum) :
    readEntriesFrom position (e :: rest) = .error error := by
  rw [readEntriesFrom, h]
  rfl

/-- Behind an entry that passes the list gives what the rest gives, with its definition in front. -/
theorem readEntriesFrom_of_ok {position : Nat} {e : Datum} {d : Definition}
    (h : readEntry position e = .ok d) (rest : List Datum) :
    readEntriesFrom position (e :: rest) =
      (readEntriesFrom (position + 1) rest).map (d :: ·) := by
  rw [readEntriesFrom, h]
  cases readEntriesFrom (position + 1) rest <;> rfl

/-- What comes of a result by a function is an error exactly if the result is. -/
theorem map_eq_error_iff {α β ε : Type} {x : Except ε α} {f : α → β} {error : ε} :
    x.map f = .error error ↔ x = .error error := by
  cases x <;> simp [Except.map]

/-- What comes of a result by a function is a value exactly if the result is. -/
theorem map_eq_ok_iff {α β ε : Type} {x : Except ε α} {f : α → β} {b : β} :
    x.map f = .ok b ↔ ∃ a, x = .ok a ∧ f a = b := by
  cases x <;> simp [Except.map]

/-- Entries in front that pass do not count: the first at fault decides, whatever follows it. -/
theorem readEntriesFrom_append_of_error {position : Nat} {before : List Datum}
    {definitions : List Definition} (hbefore : readEntriesFrom position before = .ok definitions)
    {e : Datum} {error : EntryError} (h : readEntry (position + before.length) e = .error error)
    (after : List Datum) : readEntriesFrom position (before ++ e :: after) = .error error := by
  induction before generalizing position definitions with
  | nil => exact readEntriesFrom_of_error h after
  | cons b before ih =>
    rw [List.length_cons, Nat.add_comm before.length, ← Nat.add_assoc] at h
    cases hb : readEntry position b with
    | error error' =>
      rw [readEntriesFrom_of_error hb] at hbefore
      cases hbefore
    | ok d =>
      rw [readEntriesFrom_of_ok hb, map_eq_ok_iff] at hbefore
      obtain ⟨definitions', hbefore, -⟩ := hbefore
      rw [List.cons_append, readEntriesFrom_of_ok hb, map_eq_error_iff]
      exact ih hbefore h

/-- The error of a list of entries is that of one of them, and those before it pass. -/
theorem exists_of_readEntriesFrom_eq_error {position : Nat} {entries : List Datum}
    {error : EntryError} (h : readEntriesFrom position entries = .error error) :
    ∃ before e after definitions, entries = before ++ e :: after ∧
      readEntriesFrom position before = .ok definitions ∧
      readEntry (position + before.length) e = .error error := by
  induction entries generalizing position with
  | nil => cases h
  | cons e rest ih =>
    cases he : readEntry position e with
    | error error' =>
      rw [readEntriesFrom_of_error he] at h
      obtain rfl := Except.error.inj h
      exact ⟨[], e, rest, [], rfl, rfl, he⟩
    | ok d =>
      rw [readEntriesFrom_of_ok he, map_eq_error_iff] at h
      obtain ⟨before, e', after, definitions, rfl, hbefore, herror⟩ := ih h
      refine ⟨e :: before, e', after, d :: definitions, rfl, ?_, ?_⟩
      · rw [readEntriesFrom_of_ok he, hbefore]
        rfl
      · rwa [List.length_cons, Nat.add_comm before.length, ← Nat.add_assoc]

/-- A list of partners exists exactly if there is a partner for each member. -/
theorem exists_forall₂_iff {α β : Type} {R : α → β → Prop} {xs : List α} :
    (∃ ys, List.Forall₂ R xs ys) ↔ ∀ x ∈ xs, ∃ y, R x y := by
  induction xs with
  | nil => exact ⟨fun _ => List.forall_mem_nil _, fun _ => ⟨[], .nil⟩⟩
  | cons x xs ih =>
    rw [List.forall_mem_cons, ← ih]
    constructor
    · rintro ⟨_, _ | ⟨h, hrest⟩⟩
      exact ⟨⟨_, h⟩, _, hrest⟩
    · rintro ⟨⟨y, h⟩, ys, hrest⟩
      exact ⟨y :: ys, .cons h hrest⟩

/-- Entries are read as definitions exactly if each of them describes its own. -/
theorem readEntriesFrom_eq_ok_iff {entries : List Datum} (hjson : ∀ e ∈ entries, e.IsJson)
    (position : Nat) (definitions : List Definition) :
    readEntriesFrom position entries = .ok definitions ↔
      List.Forall₂ Describes entries definitions := by
  induction entries generalizing position definitions with
  | nil =>
    constructor
    · intro h
      obtain rfl := Except.ok.inj h
      exact .nil
    · rintro ⟨⟩
      rfl
  | cons e rest ih =>
    obtain ⟨he, hrest⟩ := List.forall_mem_cons.1 hjson
    constructor
    · intro h
      cases hd : readEntry position e with
      | error error =>
        rw [readEntriesFrom_of_error hd] at h
        cases h
      | ok d =>
        rw [readEntriesFrom_of_ok hd, map_eq_ok_iff] at h
        obtain ⟨ds, hds, rfl⟩ := h
        exact .cons ((readEntry_eq_ok_iff he position).1 hd) ((ih hrest _ _).1 hds)
    · rintro (_ | ⟨hd, hds⟩)
      rw [readEntriesFrom_of_ok (hd.readEntry_eq he position), (ih hrest _ _).2 hds]
      rfl

/-- Entries of the values of JSON are read as definitions exactly if each of them describes one, and
then in their order. Otherwise the first that describes none decides the error, which is the one
that it gives at its position by itself, whatever follows: it says that the entry is no mapping,
that a key of it is no text, that only its aliases are at fault, by being empty, or that its fields
are. The message begins with the position, save for keys and empty aliases, and save for a name that
holds a number of too many digits, which is refused for that alone. Looking up the facet names of an
entry that passes once more gives its facets again. -/
theorem readEntries_describe (entries : List Datum) (hjson : ∀ e ∈ entries, e.IsJson) :
    (∀ definitions, readEntries entries = .ok definitions ↔
      List.Forall₂ Describes entries definitions) ∧
    ((∃ definitions, readEntries entries = .ok definitions) ↔
      ∀ e ∈ entries, ∃ d, Describes e d) ∧
    (∀ before e after, entries = before ++ e :: after → (∀ b ∈ before, ∃ d, Describes b d) →
      (¬ ∃ d, Describes e d) →
      ∃ error, readEntries entries = .error error ∧
        readEntry before.length e = .error error ∧ Refuses before.length e error ∧
        (error.CarriesPosition before.length ∨ error = .keyNotText ∨ error = .unwritable ∨
          ∃ name, error = .draft (.badAlias name (.text ""))) ∧
        (error = .unwritable ↔ HidesName e)) ∧
    (∀ fields entry, Entry.ofFields fields = .ok entry →
      Facets.ofNames (entry.facetNames.map .text) = .ok entry.facets) := by
  have hall : ∀ definitions, readEntries entries = .ok definitions ↔
      List.Forall₂ Describes entries definitions := readEntriesFrom_eq_ok_iff hjson 0
  refine ⟨hall, ?_, ?_, ?_⟩
  · simp only [hall, exists_forall₂_iff]
  · rintro before e after rfl hbefore he
    obtain ⟨hjsonBefore, hjsonRest⟩ := List.forall_mem_append.1 hjson
    obtain ⟨error, herror, hrefuses⟩ :=
      exists_refuses (List.forall_mem_cons.1 hjsonRest).1 before.length he
    obtain ⟨definitions, hdescribe⟩ := exists_forall₂_iff.2 hbefore
    have hread := (readEntriesFrom_eq_ok_iff hjsonBefore 0 definitions).2 hdescribe
    rw [← Nat.zero_add before.length] at herror
    have hlist := readEntriesFrom_append_of_error hread herror after
    rw [Nat.zero_add] at herror
    exact ⟨error, hlist, herror, hrefuses, hrefuses.carriesPosition, hrefuses.eq_unwritable_iff⟩
  · intro fields entry h
    obtain ⟨-, -, -, hfacets⟩ := Entry.ofFields_eq_ok_iff.1 h
    exact ofNames_of_checkFacetNames hfacets

/-- An entry that describes a flag, with blanks and capitals in its kind and a facet name by itself.
-/
def quietEntry : Datum :=
  .mapping [(.text "kind", .text " Switch "), (.text "name", .text "quiet"),
    (.text "syntax", .text "single")]

/-- An entry that would describe an option, were it not for an empty alias. -/
def levelEntry : Datum :=
  .mapping [(.text "kind", .text "option"), (.text "name", .text "level"),
    (.text "aliases", .list [.text "l", .text ""])]

/-- The two entries hold values of JSON. -/
theorem isJson_quietEntry_levelEntry : quietEntry.IsJson ∧ levelEntry.IsJson := by
  have haliases : (Datum.list [.text "l", .text ""]).IsJson := .list (by simp [Datum.IsJson.text])
  exact ⟨.mapping (by simp [Datum.IsJson.text]), .mapping (by simp [Datum.IsJson.text, haliases])⟩

/-- Of three entries, of which the last is no mapping at all, the second decides the error. -/
theorem readEntries_describe_empty_alias :
    (∀ e ∈ [quietEntry, levelEntry, .int 3], e.IsJson) ∧
      readEntries [quietEntry, levelEntry, .int 3] =
        .error (.draft (.badAlias "level" (.text ""))) := by
  obtain ⟨hquiet, hlevel⟩ := isJson_quietEntry_levelEntry
  have hjson : ∀ e ∈ [quietEntry, levelEntry, .int 3], e.IsJson := by
    simp [hquiet, hlevel, Datum.IsJson.int]
  obtain ⟨-, -, hfirst, -⟩ := readEntries_describe [quietEntry, levelEntry, .int 3] hjson
  -- Alone, the first entry describes a definition and the second does not.
  have hdescribes : ∃ d, Describes quietEntry d := by
    obtain ⟨-, hall, -⟩ := readEntries_describe [quietEntry] (by simp [hquiet])
    exact hall.1 ⟨_, rfl⟩ quietEntry List.mem_cons_self
  have hnot : ¬ ∃ d, Describes levelEntry d := by
    obtain ⟨-, hall, -⟩ := readEntries_describe [levelEntry] (by simp [hlevel])
    intro h
    obtain ⟨definitions, hread⟩ := hall.2 (List.forall_mem_singleton.2 h)
    exact nomatch hread
  obtain ⟨error, hread, halone, -⟩ := hfirst [quietEntry] levelEntry [.int 3] rfl
    (List.forall_mem_singleton.2 hdescribes) hnot
  have herror : readEntry 1 levelEntry = .error (.draft (.badAlias "level" (.text ""))) := rfl
  obtain rfl := Except.error.inj (halone.symm.trans herror)
  exact ⟨hjson, hread⟩

/-- An entry whose name is a number of too many digits. -/
def longNameEntry : Datum :=
  .mapping [(.text "kind", .text "flag"), (.text "name", .int Text.leastUnwritable)]

/-- A number of too many digits is no name, but the error about the entry cannot quote it, and
another one is raised, which does not tell the position. -/
theorem exists_entry_refused_otherwise :
    (∀ e ∈ [longNameEntry], e.IsJson) ∧ (¬ ∃ d, Describes longNameEntry d) ∧
      readEntries [longNameEntry] = .error .unwritable ∧
      ¬ EntryError.unwritable.CarriesPosition 0 := by
  have hjson : longNameEntry.IsJson :=
    .mapping (by simp [Datum.IsJson.text, Datum.IsJson.int])
  have hnot : ¬ ∃ d, Describes longNameEntry d := by
    rintro ⟨d, fields, hfields, hparts⟩
    obtain rfl := Datum.mapping.inj hfields
    exact nomatch hparts.name
  have hhides : HidesName longNameEntry :=
    ⟨_, _, rfl, by simp, rfl, Text.isWritable_leastUnwritable⟩
  obtain ⟨error, hread, hrefuses⟩ := exists_refuses hjson 0 hnot
  obtain rfl := hrefuses.eq_unwritable_iff.2 hhides
  refine ⟨List.forall_mem_singleton.2 hjson, hnot, ?_, ?_⟩
  · exact readEntriesFrom_of_error hread []
  · -- The message of that error begins with another letter.
    rintro ⟨start, hstart, rest, hmessage⟩
    have hfirst : EntryError.unwritable.message.toList.head? = some 'E' := by decide +kernel
    rw [hmessage, String.append_assoc, String.append_assoc, String.toList_append] at hfirst
    rcases List.mem_cons.1 hstart with rfl | hstart
    · exact absurd hfirst (by simp)
    · obtain rfl := List.mem_singleton.1 hstart
      exact absurd hfirst (by simp)

end Settings

end ArgScan
