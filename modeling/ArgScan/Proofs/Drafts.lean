import ArgScan.Draft
import ArgScan.Proofs.Runs

/-!
# Which drafts are definitions

The parts of a draft may be anything. `Draft.Gives` says which definition a draft gives: the one
with the kind that is meant, the name, the aliases and the facets. `Draft.Refuses` says what else
may be found, one constructor for each fault, which takes the parts that are checked before it to be
good. The errors about the name, an alias and the facets quote the value at fault (`Draft.Quotes`),
and if the value does not show, the draft is refused for that instead. Every draft gives a
definition or is refused (`Draft.gives_or_refuses`), which is a matter of its parts alone, and the
checks do what the draft does (`Draft.toDefinition_of_gives`, `Draft.toDefinition_of_refuses`). So
they find a definition exactly if the draft gives it, and an error exactly if the draft is refused
with it.

A definition is changed by giving other aliases or other facets. A change is the draft of the
definition with that part replaced (`Definition.change_eq`), so it is checked by the same rule, and
what passes differs from the definition in that part alone. Changes made one after another are a run
(`Definition.changeAll`); each starts from what the one before has left.
-/

namespace ArgScan

/-- A value is a text that is not empty. -/
def Datum.IsName (d : Datum) : Prop :=
  ∃ s, d = .text s ∧ s ≠ ""

/-- A field means a kind: it is the kind, or a text that names it. -/
inductive KindField.Gives : KindField → Kind → Prop
  /-- The kind itself. -/
  | kind (kind : Kind) : Gives (.kind kind) kind
  /-- A text that names it. -/
  | word {word : String} {kind : Kind} (h : Kind.ofText? word = some kind) :
    Gives (.named (.text word)) kind

/-- A field means no kind. -/
inductive KindField.Refuses : KindField → KindError → Prop
  /-- The field is a value other than a text. -/
  | notText {found : Datum} (h : ∀ s, found ≠ .text s) : Refuses (.named found) (.notText found)
  /-- The field is a text that names no kind. -/
  | unknown {word : String} (h : Kind.ofText? word = none) :
    Refuses (.named (.text word)) (.unknown word)

/-- A draft gives a definition: its parts are those of the definition, and the aliases are not a
single text, but something that holds the texts in order. -/
structure Draft.Gives (draft : Draft) (d : Definition) : Prop where
  /-- What is meant to be the kind means the kind. -/
  kind : draft.kind.Gives d.kind
  /-- What is meant to be the name is the name. -/
  name : draft.name = .text d.name
  /-- What is meant to be the aliases is no text. -/
  not_text : ∀ s, draft.aliases ≠ .text s
  /-- What is meant to be the aliases holds the aliases, in order. -/
  aliases : draft.aliases.items? = some (d.aliases.map .text)
  /-- What is meant to be the facets is the facets. -/
  facets : draft.facets = .facets d.facets

/-- The kind of a draft and its name are good. -/
structure Draft.IsNamed (draft : Draft) (s : String) : Prop where
  /-- What is meant to be the kind means one. -/
  kind : ∃ kind, draft.kind.Gives kind
  /-- The name is the text. -/
  name : draft.name = .text s
  /-- The text is not empty. -/
  ne : s ≠ ""

/-- A value is at fault in a draft, and the error about it quotes it. The parts before it are good.
-/
inductive Draft.Quotes (draft : Draft) : Datum → DraftError → Prop
  /-- The name is no text, or the empty one. -/
  | name {kind : Kind} (hkind : draft.kind.Gives kind) (h : ¬ draft.name.IsName) :
    Quotes draft draft.name (.badName draft.name)
  /-- Among the aliases is one that is no text, or the empty one; it is the first of them. -/
  | oneAlias {name : String} {before after : List Datum} {found : Datum}
    (hname : draft.IsNamed name)
    (htext : ∀ s, draft.aliases ≠ .text s)
    (hitems : draft.aliases.items? = some (before ++ found :: after))
    (hbefore : ∀ d ∈ before, d.IsName) (hfound : ¬ found.IsName) :
    Quotes draft found (.badAlias name found)
  /-- The facets are something else. -/
  | facets {name : String} {items : List Datum} {found : Datum} (hname : draft.IsNamed name)
    (htext : ∀ s, draft.aliases ≠ .text s) (hitems : draft.aliases.items? = some items)
    (hnames : ∀ d ∈ items, d.IsName) (h : draft.facets = .other found) :
    Quotes draft found (.badFacets name found)

/-- The fault with which a draft is refused. The parts before the one at fault are good. -/
inductive Draft.Refuses (draft : Draft) : DraftError → Prop
  /-- What is meant to be the kind means none. -/
  | kind {error : KindError} (h : draft.kind.Refuses error) : Refuses draft (.badKind error)
  /-- The aliases are a single text. -/
  | aliasesText {name s : String} (hname : draft.IsNamed name) (h : draft.aliases = .text s) :
    Refuses draft (.aliasesText name s)
  /-- The aliases are a value that holds no values. -/
  | aliasesNotIterable {name : String} (hname : draft.IsNamed name)
    (h : draft.aliases.items? = none) : Refuses draft .aliasesNotIterable
  /-- The name, an alias or the facets are at fault. -/
  | quoted {found : Datum} {error : DraftError} (h : draft.Quotes found error)
    (hwritable : found.isWritable = true) : Refuses draft error
  /-- The name, an alias or the facets are at fault, and do not show. -/
  | unwritable {found : Datum} {error : DraftError} (h : draft.Quotes found error)
    (hwritable : found.isWritable = false) : Refuses draft .unwritable

/-- A change of a definition: other aliases, or other facets. -/
inductive Change where
  | aliases (items : List Datum)
  | facets (field : FacetsField)

/-- The draft with the part that a change is about replaced. -/
def Change.replace : Change → Draft → Draft
  | .aliases items, draft => { draft with aliases := .tuple items }
  | .facets field, draft => { draft with facets := field }

/-- A change of a definition yields another one, which differs from it in that part alone. -/
inductive Change.Yields (d : Definition) : Change → Definition → Prop
  /-- The aliases are the given texts. -/
  | aliases {texts : List String} (h : ∀ s ∈ texts, s ≠ "") :
    Yields d (.aliases (texts.map .text)) { d with aliases := texts, alias_ne := h }
  /-- The facets are the given ones. -/
  | facets (facets : Facets) : Yields d (.facets (.facets facets)) { d with facets }

/-- One of several changes: what it was tried on, and what came of it. -/
structure Attempt where
  /-- The definition before. -/
  before : Definition
  /-- The change. -/
  change : Change
  /-- The definition that the change gives, or why it gives none. -/
  outcome : Except DraftError Definition

/-- The definition that an attempt leaves: the changed one, or the one before if there is none. -/
def Attempt.after (x : Attempt) : Definition :=
  match x.outcome with
  | .ok d => d
  | .error _ => x.before

namespace Definition

/-- The parts of a definition as a draft. -/
def draft (d : Definition) : Draft where
  kind := .kind d.kind
  name := .text d.name
  aliases := .tuple (d.aliases.map .text)
  facets := .facets d.facets

/-- Makes one change. -/
def change (d : Definition) : Change → Except DraftError Definition
  | .aliases items => d.withAliases items
  | .facets field => d.withFacets field

/-- Makes changes one after another, each on what the one before has left. -/
def changeAll (d : Definition) : List Change → List Attempt
  | [] => []
  | c :: later =>
    let attempt : Attempt := { before := d, change := c, outcome := d.change c }
    attempt :: attempt.after.changeAll later

end Definition

/-- An attempt keeps the rule for drafts: it yields a definition with names that are not empty, or
it is refused like the draft with the part replaced and leaves the definition as it was. -/
def Attempt.KeepsRule (x : Attempt) : Prop :=
  (∃ d, x.outcome = .ok d ∧ x.change.Yields x.before d ∧ "" ∉ d.names) ∨
    ∃ error, x.outcome = .error error ∧ (x.change.replace x.before.draft).Refuses error ∧
      x.after = x.before

/-! ## The parts -/

/-- A value is read as a text that is not empty exactly if it is that text. -/
theorem Datum.nonemptyText?_eq_some_iff {d : Datum} {s : NonemptyText} :
    d.nonemptyText? = some s ↔ d = .text s.1 := by
  cases d with
  | text t =>
    by_cases ht : t = ""
    · simp [nonemptyText?, ht, Ne.symm s.2]
    · simp [nonemptyText?, ht, Subtype.ext_iff]
  | _ => simp [nonemptyText?]

/-- A value could be a name exactly if it is read as a text that is not empty. -/
theorem Datum.isName_iff {d : Datum} : d.IsName ↔ d.nonemptyText?.isSome = true := by
  simp only [Option.isSome_iff_exists, nonemptyText?_eq_some_iff, IsName]
  exact ⟨fun ⟨s, hs, hne⟩ => ⟨⟨s, hne⟩, hs⟩, fun ⟨s, hs⟩ => ⟨s.1, hs, s.2⟩⟩

/-- Whether a value could be a name can be computed. -/
instance (d : Datum) : Decidable d.IsName :=
  decidable_of_iff _ Datum.isName_iff.symm

/-- A value that could be no name is not read as a text that is not empty. -/
theorem Datum.nonemptyText?_eq_none {d : Datum} (h : ¬ d.IsName) : d.nonemptyText? = none :=
  Option.not_isSome_iff_eq_none.1 fun hsome => h (isName_iff.2 hsome)

/-- Values are all names, or there is a first one that is none. -/
theorem Datum.isName_or_exists_first (items : List Datum) :
    (∀ d ∈ items, d.IsName) ∨ ∃ before found after, items = before ++ found :: after ∧
      (∀ d ∈ before, d.IsName) ∧ ¬ found.IsName := by
  cases hfirst : items.find? fun d => ¬ d.IsName with
  | none =>
    refine .inl fun d hd => ?_
    simpa using List.find?_eq_none.1 hfirst d hd
  | some found =>
    obtain ⟨hfound, before, after, hitems, hbefore⟩ := List.find?_eq_some_iff_append.1 hfirst
    exact .inr ⟨before, found, after, hitems, fun d hd => by simpa using hbefore d hd,
      by simpa using hfound⟩

/-- Values that are all names are the names of something. -/
theorem Datum.exists_map_text {items : List Datum} (h : ∀ d ∈ items, d.IsName) :
    ∃ texts : List String, (∀ s ∈ texts, s ≠ "") ∧ items = texts.map .text := by
  induction items with
  | nil => exact ⟨[], by simp, rfl⟩
  | cons d rest ih =>
    obtain ⟨⟨s, rfl, hs⟩, hrest⟩ := List.forall_mem_cons.1 h
    obtain ⟨texts, htexts, rfl⟩ := ih hrest
    exact ⟨s :: texts, List.forall_mem_cons.2 ⟨hs, htexts⟩, rfl⟩

/-- Texts that are not empty are names. -/
theorem Datum.isName_of_mem_map_text {texts : List String} (h : ∀ s ∈ texts, s ≠ "") :
    ∀ d ∈ texts.map Datum.text, d.IsName := by
  intro d hd
  obtain ⟨s, hs, rfl⟩ := List.mem_map.1 hd
  exact ⟨s, rfl, h s hs⟩

/-- Texts are the same exactly if the values are. -/
theorem Datum.map_text_inj {texts texts' : List String} :
    texts.map Datum.text = texts'.map .text ↔ texts = texts' :=
  List.map_inj_right fun _ _ h => Datum.text.inj h

/-- A kind means itself and no other. -/
@[simp] theorem KindField.gives_kind_iff {kind kind' : Kind} :
    (KindField.kind kind).Gives kind' ↔ kind' = kind := by
  constructor
  · rintro ⟨⟩
    rfl
  · rintro rfl
    exact .kind kind'

/-- A text means the kind that it names. -/
@[simp] theorem KindField.gives_text_iff {word : String} {kind : Kind} :
    (KindField.named (.text word)).Gives kind ↔ Kind.ofText? word = some kind := by
  constructor
  · rintro (_ | h)
    exact h
  · exact .word

/-- A field means a kind, or it is refused. -/
theorem KindField.gives_or_refuses (field : KindField) :
    (∃ kind, field.Gives kind) ∨ ∃ error, field.Refuses error := by
  cases field with
  | kind kind => exact .inl ⟨kind, .kind kind⟩
  | named found =>
    by_cases htext : ∃ word, found = .text word
    · obtain ⟨word, rfl⟩ := htext
      cases hword : Kind.ofText? word with
      | none => exact .inr ⟨_, .unknown hword⟩
      | some kind => exact .inl ⟨kind, .word hword⟩
    · exact .inr ⟨_, .notText fun word hword => htext ⟨word, hword⟩⟩

namespace Draft

/-- A draft in which a value is at fault is refused. -/
theorem Quotes.exists_refuses {draft : Draft} {found : Datum} {error : DraftError}
    (h : draft.Quotes found error) : ∃ error, draft.Refuses error := by
  cases hwritable : found.isWritable with
  | true => exact ⟨_, .quoted h hwritable⟩
  | false => exact ⟨_, .unwritable h hwritable⟩

/-- A draft gives a definition, or it is refused. -/
theorem gives_or_refuses (draft : Draft) :
    (∃ d, draft.Gives d) ∨ ∃ error, draft.Refuses error := by
  obtain ⟨kind, hkind⟩ | ⟨error, hkind⟩ := draft.kind.gives_or_refuses
  case inr => exact .inr ⟨_, .kind hkind⟩
  by_cases hname : draft.name.IsName
  case neg => exact .inr (Quotes.name hkind hname).exists_refuses
  obtain ⟨name, hname, hne⟩ := hname
  have hnamed : draft.IsNamed name := ⟨⟨kind, hkind⟩, hname, hne⟩
  by_cases htext : ∃ s, draft.aliases = .text s
  case pos =>
    obtain ⟨s, hs⟩ := htext
    exact .inr ⟨_, .aliasesText hnamed hs⟩
  have htext : ∀ s, draft.aliases ≠ .text s := fun s hs => htext ⟨s, hs⟩
  cases hitems : draft.aliases.items? with
  | none => exact .inr ⟨_, .aliasesNotIterable hnamed hitems⟩
  | some items =>
    obtain hnames | ⟨before, found, after, rfl, hbefore, hfound⟩ :=
      Datum.isName_or_exists_first items
    case inr => exact .inr (Quotes.oneAlias hnamed htext hitems hbefore hfound).exists_refuses
    cases hfacets : draft.facets with
    | other found => exact .inr (Quotes.facets hnamed htext hitems hnames hfacets).exists_refuses
    | facets facets =>
      obtain ⟨texts, htexts, rfl⟩ := Datum.exists_map_text hnames
      exact .inl ⟨⟨kind, name, texts, facets, hne, htexts⟩, hkind, hname, htext, hitems, hfacets⟩

/-! ## The checks -/

/-- A field that means a kind passes as this kind. -/
theorem checkKind_of_gives {field : KindField} {kind : Kind} (h : field.Gives kind) :
    checkKind field = .ok kind := by
  cases h with
  | kind => rfl
  | word h => rw [checkKind, Kind.ofDatum, h]; rfl

/-- A field that means no kind is refused. -/
theorem checkKind_of_refuses {field : KindField} {error : KindError} (h : field.Refuses error) :
    checkKind field = .error (.badKind error) := by
  cases h with
  | @notText found h =>
    cases found with
    | text s => exact absurd rfl (h s)
    | _ => rfl
  | unknown h => rw [checkKind, Kind.ofDatum, h]; rfl

/-- A text that is not empty passes as a name. -/
theorem checkName_text {s : String} (h : s ≠ "") : checkName (.text s) = .ok ⟨s, h⟩ := by
  have htext : (Datum.text s).nonemptyText? = some ⟨s, h⟩ := Datum.nonemptyText?_eq_some_iff.2 rfl
  rw [checkName, htext]

/-- Aliases that are no text are checked one by one. -/
theorem checkAliases_of_items {name : String} {d : Datum} {items : List Datum}
    (htext : ∀ s, d ≠ .text s) (h : d.items? = some items) :
    checkAliases name d = checkAliasList name items := by
  cases d with
  | text s => exact absurd rfl (htext s)
  | _ => simp [checkAliases, h]

/-- Aliases that hold no values are refused without words. -/
theorem checkAliases_of_not_iterable {name : String} {d : Datum} (h : d.items? = none) :
    checkAliases name d = .error .aliasesNotIterable := by
  cases d with
  | text s => simp [Datum.items?] at h
  | _ => simp [checkAliases, h]

/-- A text that is not empty passes as an alias, in front of the others. -/
theorem checkAliasList_text_cons (name : String) {s : String} (hs : s ≠ "") (rest : List Datum) :
    checkAliasList name (.text s :: rest) = (checkAliasList name rest).map (⟨s, hs⟩ :: ·) := by
  have htext : (Datum.text s).nonemptyText? = some ⟨s, hs⟩ := Datum.nonemptyText?_eq_some_iff.2 rfl
  unfold checkAliasList
  rw [List.mapM_cons, htext]
  rfl

/-- Texts that are not empty pass as aliases. -/
theorem checkAliasList_map_text (name : String) {texts : List String} (h : ∀ s ∈ texts, s ≠ "") :
    checkAliasList name (texts.map .text) = .ok (texts.pmap Subtype.mk h) := by
  induction texts with
  | nil => rfl
  | cons s rest ih =>
    obtain ⟨hs, hrest⟩ := List.forall_mem_cons.1 h
    rw [List.map_cons, checkAliasList_text_cons name hs, ih hrest]
    rfl

/-- The first alias that is none is refused, whatever comes after it. -/
theorem checkAliasList_append_cons (name : String) {before : List Datum} {found : Datum}
    (hbefore : ∀ d ∈ before, d.IsName) (hfound : ¬ found.IsName) (after : List Datum) :
    checkAliasList name (before ++ found :: after) =
      .error (.quoting found (.badAlias name found)) := by
  induction before with
  | nil =>
    unfold checkAliasList
    rw [List.nil_append, List.mapM_cons, Datum.nonemptyText?_eq_none hfound]
    rfl
  | cons d rest ih =>
    obtain ⟨⟨s, rfl, hs⟩, hrest⟩ := List.forall_mem_cons.1 hbefore
    rw [List.cons_append, checkAliasList_text_cons name hs, ih hrest]
    rfl

/-- The texts of aliases that pass are the texts. -/
theorem map_val_pmap {texts : List String} (h : ∀ s ∈ texts, s ≠ "") :
    (texts.pmap Subtype.mk h : List NonemptyText).map Subtype.val = texts := by
  rw [List.map_pmap, List.pmap_eq_map, List.map_id']

/-- A name that could be none is refused. -/
theorem checkName_of_not_isName {d : Datum} (h : ¬ d.IsName) :
    checkName d = .error (.quoting d (.badName d)) := by
  rw [checkName, Datum.nonemptyText?_eq_none h]

/-- What is left to check of a draft with a good kind and a good name. -/
theorem toDefinition_eq {draft : Draft} {kind : Kind} {s : String}
    (hkind : draft.kind.Gives kind) (hname : draft.name = .text s) (hne : s ≠ "") :
    draft.toDefinition = (checkAliases s draft.aliases).bind fun aliases =>
      (checkFacets s draft.facets).map fun facets =>
        { kind, name := s, aliases := aliases.map Subtype.val, facets
          name_ne := hne, alias_ne := map_val_ne aliases } := by
  unfold toDefinition
  rw [checkKind_of_gives hkind, hname, checkName_text hne]
  rfl

/-- Aliases that do not pass decide the error of a draft with a good kind and a good name. -/
theorem IsNamed.toDefinition_eq_error {draft : Draft} {s : String} {error : DraftError}
    (h : draft.IsNamed s) (haliases : checkAliases s draft.aliases = .error error) :
    draft.toDefinition = .error error := by
  obtain ⟨⟨kind, hkind⟩, hname, hne⟩ := h
  rw [toDefinition_eq hkind hname hne, haliases]
  rfl

/-- The checks find the definition that a draft gives. -/
theorem toDefinition_of_gives {draft : Draft} {d : Definition} (h : draft.Gives d) :
    draft.toDefinition = .ok d := by
  rw [toDefinition_eq h.kind h.name d.name_ne, checkAliases_of_items h.not_text h.aliases,
    checkAliasList_map_text d.name d.alias_ne, h.facets]
  exact congrArg Except.ok (Definition.ext rfl rfl (map_val_pmap d.alias_ne) rfl)

/-- The checks refuse a value at fault, with the error that quotes it if it shows. -/
theorem Quotes.toDefinition_eq_error {draft : Draft} {found : Datum} {error : DraftError}
    (h : draft.Quotes found error) : draft.toDefinition = .error (.quoting found error) := by
  cases h with
  | name hkind h =>
    unfold toDefinition
    rw [checkKind_of_gives hkind, checkName_of_not_isName h]
    rfl
  | oneAlias hname htext hitems hbefore hfound =>
    exact hname.toDefinition_eq_error
      ((checkAliases_of_items htext hitems).trans (checkAliasList_append_cons _ hbefore hfound _))
  | facets hname htext hitems hnames h =>
    obtain ⟨⟨kind, hkind⟩, hname, hne⟩ := hname
    obtain ⟨texts, htexts, rfl⟩ := Datum.exists_map_text hnames
    rw [toDefinition_eq hkind hname hne, checkAliases_of_items htext hitems,
      checkAliasList_map_text _ htexts, h]
    rfl

/-- The checks refuse a draft that is refused, with the same error. -/
theorem toDefinition_of_refuses {draft : Draft} {error : DraftError} (h : draft.Refuses error) :
    draft.toDefinition = .error error := by
  cases h with
  | kind h =>
    unfold toDefinition
    rw [checkKind_of_refuses h]
    rfl
  | aliasesText hname h => exact hname.toDefinition_eq_error (by rw [h]; rfl)
  | aliasesNotIterable hname h =>
    exact hname.toDefinition_eq_error (checkAliases_of_not_iterable h)
  | quoted h hwritable => rw [h.toDefinition_eq_error, DraftError.quoting, if_pos hwritable]
  | unwritable h hwritable =>
    rw [h.toDefinition_eq_error, DraftError.quoting, if_neg (ne_true_of_eq_false hwritable)]

/-- The checks find a definition exactly if the draft gives it. -/
theorem toDefinition_eq_ok_iff {draft : Draft} {d : Definition} :
    draft.toDefinition = .ok d ↔ draft.Gives d := by
  refine ⟨fun h => ?_, toDefinition_of_gives⟩
  obtain ⟨d', hgives⟩ | ⟨error, hrefuses⟩ := draft.gives_or_refuses
  · obtain rfl := Except.ok.inj (h.symm.trans (toDefinition_of_gives hgives))
    exact hgives
  · exact nomatch h.symm.trans (toDefinition_of_refuses hrefuses)

/-- The checks find an error exactly if the draft is refused with it. -/
theorem toDefinition_eq_error_iff {draft : Draft} {error : DraftError} :
    draft.toDefinition = .error error ↔ draft.Refuses error := by
  refine ⟨fun h => ?_, toDefinition_of_refuses⟩
  obtain ⟨d, hgives⟩ | ⟨error', hrefuses⟩ := draft.gives_or_refuses
  · exact nomatch h.symm.trans (toDefinition_of_gives hgives)
  · obtain rfl := Except.error.inj (h.symm.trans (toDefinition_of_refuses hrefuses))
    exact hrefuses

end Draft

/-! ## Changes -/

namespace Definition

variable {d d' : Definition} {c : Change}

/-- A change is the draft of the definition with the part replaced. -/
theorem change_eq (d : Definition) (c : Change) :
    d.change c = (c.replace d.draft).toDefinition := by
  cases c with
  | aliases items =>
    rw [Draft.toDefinition_eq (.kind d.kind) rfl d.name_ne]
    change d.withAliases items = (Draft.checkAliasList d.name items).bind _
    unfold withAliases
    cases Draft.checkAliasList d.name items <;> rfl
  | facets field =>
    have htext : ∀ s, Datum.tuple (d.aliases.map .text) ≠ .text s := nofun
    have hnamed : ((Change.facets field).replace d.draft).IsNamed d.name :=
      ⟨⟨d.kind, .kind d.kind⟩, rfl, d.name_ne⟩
    cases field with
    | facets facets =>
      exact (Draft.toDefinition_of_gives ⟨.kind d.kind, rfl, htext, rfl, rfl⟩).symm
    | other found =>
      have hquotes : ((Change.facets (.other found)).replace d.draft).Quotes found
          (.badFacets d.name found) :=
        .facets hnamed htext rfl (Datum.isName_of_mem_map_text d.alias_ne) rfl
      exact hquotes.toDefinition_eq_error.symm

/-- What the draft with the part replaced gives differs from the definition in that part alone. -/
theorem yields_of_gives (h : (c.replace d.draft).Gives d') : c.Yields d d' := by
  obtain ⟨kind', name', aliases', facets', name_ne', alias_ne'⟩ := d'
  obtain ⟨hkind, hname, -, haliases, hfacets⟩ := h
  cases c with
  | aliases items =>
    obtain rfl : kind' = d.kind := KindField.gives_kind_iff.1 hkind
    obtain ⟨⟩ : Datum.text d.name = .text name' := hname
    obtain ⟨⟩ : FacetsField.facets d.facets = .facets facets' := hfacets
    obtain ⟨⟩ : some items = some (aliases'.map .text) := haliases
    exact .aliases alias_ne'
  | facets field =>
    obtain rfl : kind' = d.kind := KindField.gives_kind_iff.1 hkind
    obtain ⟨⟩ : Datum.text d.name = .text name' := hname
    obtain rfl : field = .facets facets' := hfacets
    obtain rfl : d.aliases = aliases' := Datum.map_text_inj.1 (Option.some.inj haliases)
    exact .facets facets'

/-- No name of a definition is empty. -/
theorem empty_not_mem_names (d : Definition) : "" ∉ d.names := by
  intro h
  rcases List.mem_cons.1 h with hname | halias
  · exact d.name_ne hname.symm
  · exact d.alias_ne "" halias rfl

/-- A change keeps the rule for drafts. -/
theorem change_keepsRule (d : Definition) (c : Change) :
    Attempt.KeepsRule { before := d, change := c, outcome := d.change c } := by
  rw [change_eq]
  obtain ⟨d', hgives⟩ | ⟨error, hrefuses⟩ := (c.replace d.draft).gives_or_refuses
  · exact .inl ⟨d', Draft.toDefinition_of_gives hgives, yields_of_gives hgives,
      d'.empty_not_mem_names⟩
  · have herror := Draft.toDefinition_of_refuses hrefuses
    refine .inr ⟨error, herror, hrefuses, ?_⟩
    simp only [Attempt.after, herror]

/-- Changes keep the rule for drafts one by one, and each is tried on what the last one before it
has left. -/
theorem changeAll_keepsRule (d : Definition) (changes : List Change) :
    (d.changeAll changes).map Attempt.change = changes ∧
      ∀ earlier x later, d.changeAll changes = earlier ++ x :: later →
        x.before = earlier.foldl (fun _ y => y.after) d ∧ x.KeepsRule := by
  induction changes generalizing d with
  | nil => exact ⟨rfl, forall_split_nil⟩
  | cons c changes ih =>
    rw [changeAll]
    -- An attempt after the first one is one of those that start from what the first one has left.
    obtain ⟨hchanges, hrest⟩ := ih _
    exact ⟨congrArg (c :: ·) hchanges, forall_split_cons ⟨rfl, d.change_keepsRule c⟩ hrest⟩

end Definition

namespace Draft

/-- A draft gives some definition exactly if each of its parts is good. -/
theorem exists_gives_iff {draft : Draft} :
    (∃ d, draft.Gives d) ↔
      (∃ kind, draft.kind.Gives kind) ∧ draft.name.IsName ∧ (∀ s, draft.aliases ≠ .text s) ∧
        (∃ items, draft.aliases.items? = some items ∧ ∀ d ∈ items, d.IsName) ∧
        ∃ facets, draft.facets = .facets facets := by
  constructor
  · rintro ⟨d, hkind, hname, htext, haliases, hfacets⟩
    exact ⟨⟨_, hkind⟩, ⟨_, hname, d.name_ne⟩, htext,
      ⟨_, haliases, Datum.isName_of_mem_map_text d.alias_ne⟩, ⟨_, hfacets⟩⟩
  · rintro ⟨⟨kind, hkind⟩, ⟨name, hname, hne⟩, htext, ⟨items, hitems, hnames⟩, facets, hfacets⟩
    obtain ⟨texts, htexts, rfl⟩ := Datum.exists_map_text hnames
    exact ⟨⟨kind, name, texts, facets, hne, htexts⟩, hkind, hname, htext, hitems, hfacets⟩

/-- A draft is refused for aliases that hold no values exactly if the parts before them are good. -/
theorem refuses_aliasesNotIterable_iff {draft : Draft} :
    draft.Refuses .aliasesNotIterable ↔ (∃ kind, draft.kind.Gives kind) ∧ draft.name.IsName ∧
      (∀ s, draft.aliases ≠ .text s) ∧ draft.aliases.items? = none := by
  constructor
  · intro hrefuses
    cases hrefuses with
    | @aliasesNotIterable name hname h =>
      refine ⟨hname.kind, ⟨name, hname.name, hname.ne⟩, fun s hs => ?_, h⟩
      rw [hs] at h
      exact nomatch h
    | quoted h => cases h
  · rintro ⟨hkind, ⟨name, hname, hne⟩, -, h⟩
    exact .aliasesNotIterable ⟨hkind, hname, hne⟩ h

/-- A draft is refused for a value that does not show exactly if that value is at fault in it. -/
theorem refuses_unwritable_iff {draft : Draft} :
    draft.Refuses .unwritable ↔
      ∃ found error, draft.Quotes found error ∧ found.isWritable = false := by
  constructor
  · intro hrefuses
    cases hrefuses with
    | quoted h => cases h
    | @unwritable found error h hwritable => exact ⟨found, error, h, hwritable⟩
  · rintro ⟨found, error, h, hwritable⟩
    exact .unwritable h hwritable

/-- Every definition is well formed. A draft becomes one exactly if all of its parts are good, and
then with these parts. Otherwise the first part at fault in the order of the checks decides the
error. It is that for aliases that hold no values exactly if the kind and the name are good, and
that for a value that does not show exactly if the name, an alias or the facets are the first at
fault and hold a number of too many digits. Changes made one after another keep to the same rule,
each starting from what the last one left. -/
theorem toDefinition_well_formed (draft : Draft) :
    ((∃ d, draft.toDefinition = .ok d) ↔
      (∃ kind, draft.kind.Gives kind) ∧ draft.name.IsName ∧ (∀ s, draft.aliases ≠ .text s) ∧
        (∃ items, draft.aliases.items? = some items ∧ ∀ d ∈ items, d.IsName) ∧
        ∃ facets, draft.facets = .facets facets) ∧
    (∀ d, draft.toDefinition = .ok d ↔ draft.Gives d) ∧
    (∀ error, draft.toDefinition = .error error ↔ draft.Refuses error) ∧
    (draft.toDefinition = .error .aliasesNotIterable ↔
      (∃ kind, draft.kind.Gives kind) ∧ draft.name.IsName ∧ (∀ s, draft.aliases ≠ .text s) ∧
        draft.aliases.items? = none) ∧
    (draft.toDefinition = .error .unwritable ↔
      ∃ found error, draft.Quotes found error ∧ found.isWritable = false) ∧
    ∀ (d : Definition) (changes : List Change),
      (d.changeAll changes).map Attempt.change = changes ∧
        ∀ earlier x later, d.changeAll changes = earlier ++ x :: later →
          x.before = earlier.foldl (fun _ y => y.after) d ∧ x.KeepsRule := by
  refine ⟨?_, fun d => toDefinition_eq_ok_iff, fun error => toDefinition_eq_error_iff, ?_, ?_,
    fun d changes => d.changeAll_keepsRule changes⟩
  · simp only [toDefinition_eq_ok_iff, exists_gives_iff]
  · rw [toDefinition_eq_error_iff, refuses_aliasesNotIterable_iff]
  · rw [toDefinition_eq_error_iff, refuses_unwritable_iff]

/-- A flag that is named by another word for its kind, and two changes of it. The first one gives an
empty alias, so that the second one still finds the flag as it was. -/
theorem toDefinition_well_formed_retry :
    ∃ d, toDefinition ⟨.named (.text " Switch"), .text "depth-limit", .list [.text "dl"],
        .facets .none⟩ = .ok d ∧ d.kind = .flag ∧ d.aliases = ["dl"] ∧
      ∃ first second, d.changeAll [.aliases [.text ""], .facets (.facets .none)] = [first, second] ∧
        second.before = d ∧ second.KeepsRule := by
  have hword : Kind.ofText? " Switch" = some .flag := by decide
  have hnames : ∀ d ∈ [Datum.text "dl"], d.IsName := by decide
  obtain ⟨hgood, hgives, -, -, -, hchanges⟩ := toDefinition_well_formed
    ⟨.named (.text " Switch"), .text "depth-limit", .list [.text "dl"], .facets .none⟩
  obtain ⟨d, hd⟩ := hgood.2 ⟨⟨.flag, .word hword⟩, ⟨"depth-limit", rfl, by decide⟩, nofun,
    ⟨[.text "dl"], rfl, hnames⟩, ⟨.none, rfl⟩⟩
  obtain ⟨hkind, -, -, haliases, -⟩ := (hgives d).1 hd
  have hflag : d.kind = .flag :=
    Option.some.inj ((KindField.gives_text_iff.1 hkind).symm.trans hword)
  have hitems : some (["dl"].map Datum.text) = some (d.aliases.map .text) := haliases
  have halias : d.aliases = ["dl"] := (Datum.map_text_inj.1 (Option.some.inj hitems)).symm
  obtain ⟨-, hrule⟩ := hchanges d [.aliases [.text ""], .facets (.facets .none)]
  obtain ⟨-, hsecond⟩ := hrule [_] _ [] rfl
  obtain ⟨-, ⟨d', -, hyields, -⟩ | ⟨error, -, -, hsame⟩⟩ := hrule [] _ [_] rfl
  · -- The empty text is no alias of a definition.
    generalize hchange : Attempt.change _ = c at hyields
    cases hyields with
    | facets => exact nomatch hchange
    | @aliases texts h =>
      have htexts : [Datum.text ""] = texts.map .text := Change.aliases.inj hchange
      have hmem : Datum.text "" ∈ texts.map Datum.text := htexts ▸ List.mem_singleton_self _
      obtain ⟨s, hs, hne⟩ := Datum.isName_of_mem_map_text h _ hmem
      exact absurd (Datum.text.inj hs).symm hne
  · exact ⟨d, hd, hflag, halias, _, _, rfl, hsame, hsecond⟩

/-- A number of too many digits is no name, but the error about names cannot quote it, and another
one is raised. -/
theorem exists_name_refused_otherwise :
    ¬ (Datum.int Text.leastUnwritable).IsName ∧
      toDefinition ⟨.kind .flag, .int Text.leastUnwritable, .tuple [], .facets .none⟩ =
        .error .unwritable := by
  have hname : ¬ (Datum.int Text.leastUnwritable).IsName := by
    rintro ⟨s, hs, -⟩
    exact nomatch hs
  have hquotes : Quotes ⟨.kind .flag, .int Text.leastUnwritable, .tuple [], .facets .none⟩
      (.int Text.leastUnwritable) (.badName (.int Text.leastUnwritable)) :=
    .name (.kind .flag) hname
  exact ⟨hname, toDefinition_of_refuses (.unwritable hquotes Text.isWritable_leastUnwritable)⟩

end Draft

end ArgScan
