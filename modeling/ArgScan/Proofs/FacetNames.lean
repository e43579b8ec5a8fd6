import ArgScan.Facets
import Mathlib.Data.List.Forall2

/-!
# Names of facets

Facets are given by a list of names, which is read as a set. What a list names is the union of what
its items name (`Facets.ofNames_append`), so that neither their order nor repetitions count, and the
first item that names no facet decides the error (`Facets.ofNames_eq_error_iff`).

A name has many spellings. The case of its letters does not count, hyphens and underscores stand for
each other, and blanks around it are of no account (`Facet.Respells`). All spellings of a name have
one plain form (`Facet.plainName_eq_of_respells`), and nothing but that form is compared.
-/

namespace ArgScan

/-! ## Spellings -/

namespace Facet

/-- Characters that are not told apart in the name of a facet. -/
inductive SameMark : Char → Char → Prop
  /-- One letter in either case, or one character; only ASCII letters have a small form here. -/
  | letter {c c' : Char} (h : c.toLower = c'.toLower) : SameMark c c'
  /-- Hyphens and underscores. -/
  | hyphen {c c' : Char} (h : c ∈ ['-', '_']) (h' : c' ∈ ['-', '_']) : SameMark c c'

/-- Characters are not told apart exactly if their small forms are equal, or both are hyphens or
underscores. -/
theorem sameMark_iff {c c' : Char} :
    SameMark c c' ↔ c.toLower = c'.toLower ∨ c ∈ ['-', '_'] ∧ c' ∈ ['-', '_'] := by
  constructor
  · rintro (h | ⟨h, h'⟩)
    · exact .inl h
    · exact .inr ⟨h, h'⟩
  · rintro (h | ⟨h, h'⟩)
    · exact .letter h
    · exact .hyphen h h'

/-- Whether characters are told apart can be computed. -/
instance (c c' : Char) : Decidable (SameMark c c') :=
  decidable_of_iff _ sameMark_iff.symm

/-- A text is a core with blanks around it. -/
def HasCore (s : String) (core : List Char) : Prop :=
  ∃ front back, s.toList = front ++ core ++ back ∧ (∀ c ∈ front, Text.isBlank c = true) ∧
    ∀ c ∈ back, Text.isBlank c = true

/-- A text is another spelling of a text: they differ in nothing but the case of letters, hyphens
for underscores, and the blanks around them. -/
def Respells (s s' : String) : Prop :=
  ∃ core core', HasCore s core ∧ HasCore s' core' ∧ List.Forall₂ SameMark core core'

/-- An item is as good as another one in a list of names: they are the same, or texts that are
spellings of each other. -/
inductive Restates : Datum → Datum → Prop
  /-- The same item. -/
  | refl (d : Datum) : Restates d d
  /-- Another spelling of a text. -/
  | text {s s' : String} (h : Respells s s') : Restates (.text s) (.text s')

/-- The plain form of a character in the name of a facet. -/
def plainChar (c : Char) : Char :=
  if Text.lowerLetter c = '-' then '_' else Text.lowerLetter c

/-- The small form of a letter is decided by its small form among the ASCII letters. -/
theorem lowerLetter_eq (c : Char) :
    Text.lowerLetter c = if c.toLower = '\u212a' then 'k' else c.toLower := by
  unfold Text.lowerLetter
  rcases Text.toLower_eq_self_or c with hsame | ⟨hlow, hhigh, hsmall⟩
  · rw [hsame]
  · have hascii : c ≠ '\u212a' := by
      rintro rfl
      exact absurd hhigh (by decide)
    have hsmall' : c.toLower ≠ '\u212a' := by
      intro h
      rw [h] at hsmall
      have hkelvin : ('\u212a' : Char).toNat = 0x212a := rfl
      omega
    rw [if_neg hascii, if_neg hsmall']

/-- The small form of a letter is as blank as the letter, that is, not at all. -/
theorem isBlank_lowerLetter (c : Char) : Text.isBlank (Text.lowerLetter c) = Text.isBlank c := by
  unfold Text.lowerLetter
  split_ifs with hkelvin
  · rw [hkelvin]
    rfl
  · rcases Text.toLower_eq_self_or c with hsame | ⟨hlow, hhigh, hsmall⟩
    · rw [hsame]
    · rw [Text.isBlank_eq_false_of_visible (c := c) (by omega) (by omega),
        Text.isBlank_eq_false_of_visible (by omega) (by omega)]

/-- The plain form of a character is as blank as the character. -/
theorem isBlank_plainChar (c : Char) : Text.isBlank (plainChar c) = Text.isBlank c := by
  unfold plainChar
  split_ifs with h
  · rw [← isBlank_lowerLetter c, h]
    rfl
  · exact isBlank_lowerLetter c

/-- Characters that are not told apart have the same plain form. -/
theorem SameMark.plainChar_eq {c c' : Char} (h : SameMark c c') : plainChar c = plainChar c' := by
  cases h with
  | letter h => rw [plainChar, plainChar, lowerLetter_eq, lowerLetter_eq, h]
  | hyphen h h' =>
    have hplain : ∀ x ∈ ['-', '_'], plainChar x = '_' := by
      intro x hx
      obtain rfl | rfl : x = '-' ∨ x = '_' := by simpa using hx
      · rfl
      · rfl
    rw [hplain c h, hplain c' h']

/-- The plain form of a name is the plain form of its characters, without the blanks around it. -/
theorem plainName_eq (s : String) : plainName s = Text.trim (s.toList.map plainChar) := by
  rw [← Text.map_trim isBlank_plainChar, plainName, List.map_map]
  rfl

/-- A text is its own core. -/
theorem hasCore_self (s : String) : HasCore s s.toList :=
  ⟨[], [], by simp, by simp, by simp⟩

/-- The plain form of a name is that of its core. -/
theorem HasCore.plainName_eq {s : String} {core : List Char} (h : HasCore s core) :
    plainName s = Text.trim (core.map plainChar) := by
  obtain ⟨front, back, hs, hfront, hback⟩ := h
  have hblank {cs : List Char} (hcs : ∀ c ∈ cs, Text.isBlank c = true) :
      ∀ c ∈ cs.map plainChar, Text.isBlank c = true := by
    intro c hc
    obtain ⟨c', hc', rfl⟩ := List.mem_map.1 hc
    rw [isBlank_plainChar, hcs c' hc']
  rw [Facet.plainName_eq, hs, List.map_append, List.map_append,
    Text.trim_append_append (hblank hfront) (hblank hback)]

/-- Cores that are not told apart have the same plain form. -/
theorem map_plainChar_eq {core core' : List Char} (h : List.Forall₂ SameMark core core') :
    core.map plainChar = core'.map plainChar := by
  induction h with
  | nil => rfl
  | cons hmark _ ih => rw [List.map_cons, List.map_cons, hmark.plainChar_eq, ih]

/-- All spellings of a name have one plain form. -/
theorem plainName_eq_of_respells {s s' : String} (h : Respells s s') :
    plainName s = plainName s' := by
  obtain ⟨core, core', hcore, hcore', hmarks⟩ := h
  rw [hcore.plainName_eq, hcore'.plainName_eq, map_plainChar_eq hmarks]

/-- All spellings of a name name the same facet, or none does. -/
theorem ofText?_eq_of_respells {s s' : String} (h : Respells s s') : ofText? s = ofText? s' := by
  rw [ofText?, ofText?, plainName_eq_of_respells h]

/-- The names of a facet: the full one and the short ones. -/
def IsWordFor (word : String) (f : Facet) : Prop :=
  word = f.name ∨ (word, f) ∈ shortNames

/-- A facet's names name it. -/
theorem IsWordFor.ofText?_eq {word : String} {f : Facet} (h : IsWordFor word f) :
    ofText? word = some f := by
  have hfull : ∀ f ∈ all, ofText? f.name = some f := by decide
  have hshort : ∀ entry ∈ shortNames, ofText? entry.1 = some entry.2 := by decide
  rcases h with rfl | h
  · exact hfull f (by cases f <;> decide)
  · exact hshort (word, f) h

/-- The words that stand for several facets or for none, and name none. -/
def groupWords : List String := ["none", "hyphens", "separators"]

/-- A word for a group names no facet. -/
theorem ofText?_of_mem_groupWords {word : String} (h : word ∈ groupWords) :
    ofText? word = none := by
  have hnone : ∀ word ∈ groupWords, ofText? word = none := by decide
  exact hnone word h

/-- An item that restates another one names the same facet, or none does. -/
theorem Restates.ofDatum_eq_ok_iff {d d' : Datum} (h : Restates d d') {f : Facet} :
    ofDatum d = .ok f ↔ ofDatum d' = .ok f := by
  cases h with
  | refl => rfl
  | @text s s' h =>
    rw [ofDatum, ofDatum, ofText?_eq_of_respells h]
    cases ofText? s' <;> simp

end Facet

/-! ## Sets of facets -/

namespace Facets

/-- Whether a set has a facet. -/
def has (facets : Facets) : Facet → Bool
  | .singleHyphen => facets.singleHyphen
  | .doubleHyphen => facets.doubleHyphen
  | .attached => facets.attached
  | .equals => facets.equals
  | .nextToken => facets.nextToken

/-- The union of facets. -/
def join (fs : List Facet) : Facets :=
  fs.foldr (fun f joined => (singleton f).union joined) none

/-- Sets that have the same facets are equal. -/
theorem eq_of_has {a b : Facets} (h : ∀ f, a.has f = b.has f) : a = b := by
  obtain ⟨a₁, a₂, a₃, a₄, a₅⟩ := a
  obtain ⟨b₁, b₂, b₃, b₄, b₅⟩ := b
  exact Facets.mk.injEq .. ▸
    ⟨h .singleHyphen, h .doubleHyphen, h .attached, h .equals, h .nextToken⟩

/-- The empty set has no facet. -/
@[simp] theorem has_none (f : Facet) : none.has f = false := by
  cases f <;> rfl

/-- A union has the facets of either set. -/
@[simp] theorem has_union (a b : Facets) (f : Facet) :
    (a.union b).has f = (a.has f || b.has f) := by
  cases f <;> rfl

/-- The set of a facet has it and no other. -/
@[simp] theorem has_singleton (f g : Facet) : (singleton f).has g = decide (f = g) := by
  cases f <;> cases g <;> rfl

/-- A set is that of one facet only. -/
theorem singleton_inj {f g : Facet} : singleton f = singleton g ↔ f = g := by
  refine ⟨fun h => ?_, congrArg singleton⟩
  have hhas := has_singleton g f
  rw [← h, has_singleton] at hhas
  simpa [eq_comm] using hhas

/-- The union of facets has those facets. -/
theorem has_join (fs : List Facet) (f : Facet) : (join fs).has f = true ↔ f ∈ fs := by
  induction fs with
  | nil => simp [join]
  | cons g fs ih =>
    rw [join, List.foldr_cons, ← join, has_union, has_singleton, Bool.or_eq_true, ih,
      decide_eq_true_eq, List.mem_cons, eq_comm]

/-- Nothing is added by the empty set. -/
theorem union_none (a : Facets) : a.union none = a :=
  eq_of_has fun f => by simp

/-- Nothing is added to the empty set but the other one. -/
theorem none_union (a : Facets) : none.union a = a :=
  eq_of_has fun f => by simp

/-- Three sets may be joined in either order. -/
theorem union_assoc (a b c : Facets) : (a.union b).union c = a.union (b.union c) :=
  eq_of_has fun f => by simp [Bool.or_assoc]

/-! ## Lists of names -/

/-- Joins the facet that an item names to a set. -/
def addName (facets : Facets) (name : Datum) : Except FacetError Facets :=
  (Facet.ofDatum name).map fun f => facets.union (singleton f)

/-- Names are read by joining one facet after another. -/
theorem ofNames_eq_foldlM (names : List Datum) : ofNames names = names.foldlM addName none := by
  have hstep : (fun (facets : Facets) name => do
      return facets.union (.singleton (← Facet.ofDatum name))) = addName := by
    funext facets name
    rw [addName]
    cases Facet.ofDatum name <;> rfl
  rw [ofNames, hstep]

/-- Reading names on from a set adds what they name to it. -/
theorem foldlM_addName (names : List Datum) (soFar : Facets) :
    names.foldlM addName soFar = (ofNames names).map soFar.union := by
  rw [ofNames_eq_foldlM]
  induction names generalizing soFar with
  | nil => exact congrArg Except.ok soFar.union_none.symm
  | cons d rest ih =>
    rw [List.foldlM_cons, List.foldlM_cons]
    cases hd : Facet.ofDatum d with
    | error error => simp only [addName, hd, Except.map, bind, Except.bind]
    | ok f =>
      have hadd (facets : Facets) : addName facets d = .ok (facets.union (singleton f)) := by
        rw [addName, hd, Except.map]
      rw [hadd, hadd]
      simp only [bind, Except.bind]
      rw [ih, ih (none.union (singleton f)), none_union]
      cases rest.foldlM addName none with
      | error error => rfl
      | ok facets => exact congrArg Except.ok (union_assoc soFar (singleton f) facets)

/-- Names are read item by item. -/
theorem ofNames_cons (d : Datum) (rest : List Datum) :
    ofNames (d :: rest) =
      (Facet.ofDatum d).bind fun f => (ofNames rest).map (singleton f).union := by
  rw [ofNames_eq_foldlM, List.foldlM_cons, addName]
  cases Facet.ofDatum d with
  | error error => rfl
  | ok f =>
    change rest.foldlM addName (none.union (singleton f)) = (ofNames rest).map (singleton f).union
    rw [foldlM_addName, none_union]

/-- A list names the union of what its parts name. The error of the first part comes first. -/
theorem ofNames_append (a b : List Datum) :
    ofNames (a ++ b) = (ofNames a).bind fun facets => (ofNames b).map facets.union := by
  induction a with
  | nil =>
    have hid : none.union = id := funext none_union
    change _ = (ofNames b).map none.union
    rw [hid, List.nil_append, Except.map_id]
    rfl
  | cons d rest ih =>
    rw [List.cons_append, ofNames_cons, ofNames_cons, ih]
    cases Facet.ofDatum d with
    | error error => rfl
    | ok f =>
      cases ofNames rest with
      | error error => rfl
      | ok facets =>
        cases ofNames b with
        | error error => rfl
        | ok facets' => exact congrArg Except.ok (union_assoc _ _ _).symm

/-- A list of one item names the facet that the item names. -/
theorem ofNames_singleton (d : Datum) : ofNames [d] = (Facet.ofDatum d).map singleton := by
  rw [ofNames_cons]
  cases Facet.ofDatum d with
  | error error => rfl
  | ok f => exact congrArg Except.ok (singleton f).union_none

/-- An item is read as a facet exactly if the list of it alone is. -/
theorem ofNames_singleton_eq_ok_iff {d : Datum} {f : Facet} :
    ofNames [d] = .ok (singleton f) ↔ Facet.ofDatum d = .ok f := by
  rw [ofNames_singleton]
  cases Facet.ofDatum d <;> simp [Except.map, singleton_inj]

/-- An item is refused exactly if the list of it alone is. -/
theorem ofNames_singleton_eq_error_iff {d : Datum} {error : FacetError} :
    ofNames [d] = .error error ↔ Facet.ofDatum d = .error error := by
  rw [ofNames_singleton]
  cases Facet.ofDatum d <;> simp [Except.map]

/-- A list is read exactly if its parts are, and then as their union. -/
theorem ofNames_append_eq_ok_iff {a b : List Datum} {facets : Facets} :
    ofNames (a ++ b) = .ok facets ↔
      ∃ fa fb, ofNames a = .ok fa ∧ ofNames b = .ok fb ∧ facets = fa.union fb := by
  rw [ofNames_append]
  cases ofNames a with
  | error error => simp [Except.bind]
  | ok fa => cases ofNames b <;> simp [Except.bind, Except.map, eq_comm]

/-- Names are read exactly if the first one and the others are. -/
theorem ofNames_cons_eq_ok_iff {d : Datum} {rest : List Datum} {facets : Facets} :
    ofNames (d :: rest) = .ok facets ↔
      ∃ f others, Facet.ofDatum d = .ok f ∧ ofNames rest = .ok others ∧
        facets = (singleton f).union others := by
  rw [ofNames_cons]
  cases Facet.ofDatum d with
  | error error => simp [Except.bind]
  | ok f => cases ofNames rest <;> simp [Except.bind, Except.map, eq_comm]

/-- Names are read as the union of the facets that they name one by one. -/
theorem ofNames_eq_ok_iff {names : List Datum} {facets : Facets} :
    ofNames names = .ok facets ↔
      ∃ fs, List.Forall₂ (fun d f => Facet.ofDatum d = .ok f) names fs ∧ facets = join fs := by
  induction names generalizing facets with
  | nil =>
    constructor
    · intro h
      exact ⟨[], .nil, (Except.ok.inj h).symm⟩
    · rintro ⟨_, ⟨⟩, rfl⟩
      rfl
  | cons d rest ih =>
    rw [ofNames_cons_eq_ok_iff]
    constructor
    · rintro ⟨f, others, hd, hrest, rfl⟩
      obtain ⟨fs, hfs, rfl⟩ := ih.1 hrest
      exact ⟨f :: fs, .cons hd hfs, rfl⟩
    · rintro ⟨_, _ | ⟨hd, hfs⟩, rfl⟩
      exact ⟨_, _, hd, ih.2 ⟨_, hfs, rfl⟩, rfl⟩

/-- Names are read if each of them is. -/
theorem exists_ofNames_eq_ok {names : List Datum}
    (h : ∀ d ∈ names, ∃ f, Facet.ofDatum d = .ok f) : ∃ facets, ofNames names = .ok facets := by
  induction names with
  | nil => exact ⟨none, rfl⟩
  | cons d rest ih =>
    obtain ⟨⟨f, hd⟩, hread⟩ := List.forall_mem_cons.1 h
    obtain ⟨others, hrest⟩ := ih hread
    exact ⟨_, ofNames_cons_eq_ok_iff.2 ⟨f, others, hd, hrest, rfl⟩⟩

/-- What is read from names has the facets that some item names, and each item names one. -/
theorem has_of_ofNames_eq_ok {names : List Datum} {facets : Facets}
    (h : ofNames names = .ok facets) : (∀ d ∈ names, ∃ f, Facet.ofDatum d = .ok f) ∧
      ∀ f, facets.has f = true ↔ ∃ d ∈ names, Facet.ofDatum d = .ok f := by
  induction names generalizing facets with
  | nil =>
    obtain rfl := Except.ok.inj h
    simp
  | cons d rest ih =>
    obtain ⟨f, others, hd, hrest, rfl⟩ := ofNames_cons_eq_ok_iff.1 h
    obtain ⟨hread, hhas⟩ := ih hrest
    refine ⟨List.forall_mem_cons.2 ⟨⟨f, hd⟩, hread⟩, fun g => ?_⟩
    simp [hhas, hd]

/-- Names are read exactly if each of them is, and then as the facets that some item names. -/
theorem ofNames_eq_ok_iff_has {names : List Datum} {facets : Facets} :
    ofNames names = .ok facets ↔ (∀ d ∈ names, ∃ f, Facet.ofDatum d = .ok f) ∧
      ∀ f, facets.has f = true ↔ ∃ d ∈ names, Facet.ofDatum d = .ok f := by
  refine ⟨has_of_ofNames_eq_ok, ?_⟩
  rintro ⟨hread, hhas⟩
  obtain ⟨facets', h⟩ := exists_ofNames_eq_ok hread
  have hsame (f : Facet) : facets'.has f = facets.has f :=
    Bool.eq_iff_iff.2 (((has_of_ofNames_eq_ok h).2 f).trans (hhas f).symm)
  rw [h, eq_of_has hsame]

/-- Neither the order of the names nor repetitions count. -/
theorem ofNames_eq_ok_iff_of_mem_iff {a b : List Datum} (h : ∀ d, d ∈ a ↔ d ∈ b)
    {facets : Facets} : ofNames a = .ok facets ↔ ofNames b = .ok facets := by
  simp only [ofNames_eq_ok_iff_has, h]

/-- Names may be spelled otherwise. -/
theorem ofNames_eq_ok_iff_of_restates {names names' : List Datum}
    (h : List.Forall₂ Facet.Restates names names') {facets : Facets} :
    ofNames names = .ok facets ↔ ofNames names' = .ok facets := by
  induction h generalizing facets with
  | nil => rfl
  | cons hd _ ih => simp only [ofNames_cons_eq_ok_iff, hd.ofDatum_eq_ok_iff, ih]

/-- Names are refused exactly if one of them is, and with the error of the first one. -/
theorem ofNames_eq_error_iff {names : List Datum} {error : FacetError} :
    ofNames names = .error error ↔ ∃ before d after, names = before ++ d :: after ∧
      (∃ facets, ofNames before = .ok facets) ∧ ofNames [d] = .error error := by
  constructor
  · intro h
    induction names with
    | nil => exact nomatch h
    | cons d rest ih =>
      rw [ofNames_cons] at h
      cases hd : Facet.ofDatum d with
      | error error' =>
        rw [hd] at h
        obtain rfl := Except.error.inj h
        exact ⟨[], d, rest, rfl, ⟨_, rfl⟩, ofNames_singleton_eq_error_iff.2 hd⟩
      | ok f =>
        cases hrest : ofNames rest with
        | ok facets => rw [hd, hrest] at h; exact nomatch h
        | error error' =>
          rw [hd, hrest] at h
          obtain rfl := Except.error.inj h
          obtain ⟨before, e, after, rfl, ⟨facets, hbefore⟩, he⟩ := ih hrest
          refine ⟨d :: before, e, after, rfl, ⟨(singleton f).union facets, ?_⟩, he⟩
          rw [ofNames_cons, hd, hbefore]
          rfl
  · rintro ⟨before, d, after, rfl, ⟨facets, hbefore⟩, hd⟩
    rw [ofNames_append, hbefore, ofNames_cons, ofNames_singleton_eq_error_iff.1 hd]
    rfl

/-- A list of names is a union. Its parts are read each for itself, so that only the items count and
not their order, and the first item that names no facet decides the error. What is read is a union
of facets, one for each item, and a spelling of a name is as good as the name: full and short names
are read in each of them, and words for groups in none. -/
theorem ofNames_reads_union :
    (∀ a b facets, ofNames (a ++ b) = .ok facets ↔
      ∃ fa fb, ofNames a = .ok fa ∧ ofNames b = .ok fb ∧ facets = fa.union fb) ∧
    (∀ a b, (∀ d, d ∈ a ↔ d ∈ b) → ∀ facets, ofNames a = .ok facets ↔ ofNames b = .ok facets) ∧
    (∀ names error, ofNames names = .error error ↔ ∃ before d after, names = before ++ d :: after ∧
      (∃ facets, ofNames before = .ok facets) ∧ ofNames [d] = .error error) ∧
    (∀ names facets, ofNames names = .ok facets ↔ ∃ fs,
      List.Forall₂ (fun d f => ofNames [d] = .ok (singleton f)) names fs ∧ facets = join fs) ∧
    (∀ names names', List.Forall₂ Facet.Restates names names' →
      ∀ facets, ofNames names = .ok facets ↔ ofNames names' = .ok facets) ∧
    (∀ word f s, Facet.IsWordFor word f → Facet.Respells word s →
      ofNames [.text s] = .ok (singleton f)) ∧
    ∀ word s, word ∈ Facet.groupWords → Facet.Respells word s →
      ofNames [.text s] = .error (.unknown s) := by
  refine ⟨fun a b facets => ofNames_append_eq_ok_iff,
    fun a b hmem facets => ofNames_eq_ok_iff_of_mem_iff hmem,
    fun names error => ofNames_eq_error_iff, fun names facets => ?union,
    fun names names' hnames facets => ofNames_eq_ok_iff_of_restates hnames,
    fun word f s hword hs => ?spelled, fun word s hword hs => ?group⟩
  case union =>
    simp only [ofNames_singleton_eq_ok_iff]
    exact ofNames_eq_ok_iff
  case spelled =>
    rw [ofNames_singleton_eq_ok_iff, Facet.ofDatum, ← Facet.ofText?_eq_of_respells hs,
      hword.ofText?_eq]
  case group =>
    rw [ofNames_singleton_eq_error_iff, Facet.ofDatum, ← Facet.ofText?_eq_of_respells hs,
      Facet.ofText?_of_mem_groupWords hword]

/-- Names in another case, with a hyphen for an underscore and blanks around them, in another order
and one of them twice; and a word for a group among names. -/
theorem ofNames_reads_union_spelled :
    ofNames [.text "EQ", .text "\tNext-ARG ", .text "EQ"] =
      .ok ((singleton .nextToken).union (singleton .equals)) ∧
    ofNames [.text "EQ", .text " Hyphens", .int 1] = .error (.unknown " Hyphens") := by
  obtain ⟨hparts, hmembers, hfault, -, -, hspelled, hgroup⟩ := ofNames_reads_union
  have hblank {c : Char} (hc : Text.isBlank c = true) : ∀ x ∈ [c], Text.isBlank x = true :=
    List.forall_mem_singleton.2 hc
  have hequals : ofNames [.text "EQ"] = .ok (singleton .equals) :=
    hspelled "eq" .equals "EQ" (.inr (by decide))
      ⟨_, _, Facet.hasCore_self _, Facet.hasCore_self _, by decide⟩
  have hnext : ofNames [.text "\tNext-ARG "] = .ok (singleton .nextToken) :=
    hspelled "next_arg" .nextToken "\tNext-ARG " (.inr (by decide))
      ⟨_, "Next-ARG".toList, Facet.hasCore_self _,
        ⟨['\t'], [' '], rfl, hblank rfl, hblank rfl⟩, by decide⟩
  have hhyphens : ofNames [.text " Hyphens"] = .error (.unknown " Hyphens") :=
    hgroup "hyphens" " Hyphens" (by decide) ⟨_, "Hyphens".toList, Facet.hasCore_self _,
      ⟨[' '], [], rfl, hblank rfl, List.forall_mem_nil _⟩, by decide⟩
  have hpair : ofNames [.text "\tNext-ARG ", .text "EQ"] =
      .ok ((singleton .nextToken).union (singleton .equals)) :=
    (hparts [_] [_] _).2 ⟨_, _, hnext, hequals, rfl⟩
  refine ⟨(hmembers _ _ (fun d => ?_) _).2 hpair, ?_⟩
  · simp only [List.mem_cons, List.not_mem_nil, or_false]
    exact or_iff_right_of_imp .inr
  · exact (hfault _ _).2 ⟨[.text "EQ"], .text " Hyphens", [.int 1], rfl, ⟨_, hequals⟩, hhyphens⟩

end Facets

end ArgScan
