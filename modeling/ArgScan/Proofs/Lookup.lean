import ArgScan.Draft

/-!
# Looking up definitions

A definition is looked up by one of its names, with any number of hyphens before it. The hyphens of
a query cannot be told from those that a name begins with, so a lookup drops all of them and
compares what is left (`bareName`). It finds the first definition that has this bare name
(`Definition.find?_eq_some_iff`). For a name without a hyphen at its start that is the first one
that has the name; for any other name it is the one or the other only if they are the same
(`Definition.find?_hyphened`), and neither need be (`Definition.exists_name_not_found`).
-/

namespace ArgScan

/-- A name without the hyphens at its start. -/
def bareName (name : String) : String :=
  String.ofList (name.toList.dropWhile (· = '-'))

/-- A name behind a number of hyphens. -/
def hyphened (count : Nat) (name : String) : String :=
  String.ofList (List.replicate count '-') ++ name

/-- A definition is the first of some definitions that has a name. -/
def IsFirstNamed (ds : List Definition) (name : String) (d : Definition) : Prop :=
  ∃ before after, ds = before ++ d :: after ∧ name ∈ d.names ∧ ∀ b ∈ before, name ∉ b.names

/-- Hyphens before a name do not count in its bare form. -/
theorem bareName_hyphened (count : Nat) (name : String) :
    bareName (hyphened count name) = bareName name := by
  unfold bareName hyphened
  rw [String.toList_append, String.toList_ofList, List.dropWhile_append_of_pos]
  intro c hc
  rw [(List.mem_replicate.1 hc).2, decide_eq_true_eq]

/-- A name is its own bare form if it does not begin with a hyphen. -/
theorem bareName_of_head? {name : String} (h : name.toList.head? ≠ some '-') :
    bareName name = name := by
  have hdrop : name.toList.dropWhile (· = '-') = name.toList := by
    cases hname : name.toList with
    | nil => rfl
    | cons c rest =>
      rw [hname, List.head?_cons, ne_eq, Option.some.injEq] at h
      exact List.dropWhile_cons_of_neg (by simpa using h)
  rw [bareName, hdrop, String.ofList_toList]

namespace Definition

variable {ds : List Definition} {name : String} {d : Definition}

/-- A text is one of the names exactly if it is among them. -/
theorem isNamed_iff : d.isNamed name = true ↔ name ∈ d.names := by
  rw [isNamed, List.contains_iff_mem]

/-- A lookup compares the bare form of the query. -/
theorem find?_eq (ds : List Definition) (query : String) :
    find? ds query = ds.find? fun d => d.isNamed (bareName query) :=
  rfl

/-- A name that does not begin with a hyphen is looked up as it is. -/
theorem find?_of_head? (ds : List Definition) (h : name.toList.head? ≠ some '-') :
    find? ds name = ds.find? fun d => d.isNamed name := by
  rw [find?_eq, bareName_of_head? h]

/-- The first definition that has a name is found by going through the definitions. -/
theorem isFirstNamed_iff :
    IsFirstNamed ds name d ↔ (ds.find? fun e => e.isNamed name) = some d := by
  rw [List.find?_eq_some_iff_append, isNamed_iff]
  simp only [Bool.not_eq_true', ← Bool.not_eq_true, isNamed_iff]
  constructor
  · rintro ⟨before, after, hsplit, hname, hbefore⟩
    exact ⟨hname, before, after, hsplit, hbefore⟩
  · rintro ⟨hname, before, after, hsplit, hbefore⟩
    exact ⟨before, after, hsplit, hname, hbefore⟩

/-- If a definition has a name, there is a first one that has it. -/
theorem exists_isFirstNamed (hd : d ∈ ds) (hname : name ∈ d.names) :
    ∃ first, IsFirstNamed ds name first := by
  simp only [isFirstNamed_iff, ← Option.isSome_iff_exists, List.find?_isSome]
  exact ⟨d, hd, isNamed_iff.2 hname⟩

/-- A lookup finds the first definition that has the bare form of the query. -/
theorem find?_eq_some_iff {query : String} :
    find? ds query = some d ↔ IsFirstNamed ds (bareName query) d := by
  rw [find?_eq, isFirstNamed_iff]

/-- A lookup finds nothing if no definition has the bare form of the query. -/
theorem find?_eq_none_iff {query : String} :
    find? ds query = none ↔ ∀ d ∈ ds, bareName query ∉ d.names := by
  rw [find?_eq, List.find?_eq_none]
  simp only [isNamed_iff]

/-- A definition is looked up by one of its names with any number of hyphens before it. What is
found is the first definition that has the name without the hyphens at its start, or nothing if
there is none. That is the first definition that has the name itself if the name does not begin with
a hyphen, and else only if the first definition for the one is also the first for the other. -/
theorem find?_hyphened (ds : List Definition) (count : Nat) (name : String) :
    (∀ d, find? ds (hyphened count name) = some d ↔ IsFirstNamed ds (bareName name) d) ∧
    (find? ds (hyphened count name) = none ↔ ∀ d ∈ ds, bareName name ∉ d.names) ∧
    ∀ d ∈ ds, name ∈ d.names →
      ((∃ first, IsFirstNamed ds name first ∧ find? ds (hyphened count name) = some first) ↔
        name.toList.head? ≠ some '-' ∨
          ∃ first, IsFirstNamed ds name first ∧ IsFirstNamed ds (bareName name) first) := by
  have hfound (d : Definition) :
      find? ds (hyphened count name) = some d ↔ IsFirstNamed ds (bareName name) d := by
    rw [find?_eq_some_iff, bareName_hyphened]
  refine ⟨hfound, by rw [find?_eq_none_iff, bareName_hyphened], fun d hd hname => ?_⟩
  simp only [hfound]
  constructor
  · exact .inr
  · rintro (hhead | hboth)
    · obtain ⟨first, hfirst⟩ := exists_isFirstNamed hd hname
      exact ⟨first, hfirst, by rwa [bareName_of_head? hhead]⟩
    · exact hboth

/-- A flag. -/
def coldFlag : Definition where
  kind := .flag
  name := "cold"
  aliases := ["unheated"]
  facets := .none
  name_ne := by decide
  alias_ne := by decide

/-- A flag with names that begin with a hyphen. -/
def hyphenFlag : Definition where
  kind := .flag
  name := "-cold"
  aliases := ["-unheated"]
  facets := .none
  name_ne := by decide
  alias_ne := by decide

/-- A flag is found by an alias with three hyphens before it. -/
theorem find?_hyphened_alias :
    ∃ first, IsFirstNamed [hyphenFlag, coldFlag] "unheated" first ∧
      find? [hyphenFlag, coldFlag] (hyphened 3 "unheated") = some first := by
  obtain ⟨-, -, hnames⟩ := find?_hyphened [hyphenFlag, coldFlag] 3 "unheated"
  exact (hnames coldFlag (by decide) (by decide)).2 (.inl (by decide))

/-- A flag that is the first one with its name is not found by it, as the name begins with a hyphen:
another flag is found, or none at all. One query may even be two names of different flags. -/
theorem exists_name_not_found :
    IsFirstNamed [coldFlag, hyphenFlag] "-cold" hyphenFlag ∧
      find? [coldFlag, hyphenFlag] (hyphened 0 "-cold") = some coldFlag ∧
      coldFlag ≠ hyphenFlag ∧
      find? [hyphenFlag] (hyphened 0 "-cold") = none ∧
      IsFirstNamed [coldFlag, hyphenFlag] "cold" coldFlag ∧
      hyphened 0 "-cold" = hyphened 1 "cold" := by
  refine ⟨isFirstNamed_iff.2 (by decide), by decide, by decide, by decide,
    isFirstNamed_iff.2 (by decide), by decide⟩

end Definition

end ArgScan
