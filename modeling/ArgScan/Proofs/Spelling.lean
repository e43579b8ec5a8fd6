import ArgScan.Proofs.Fitting

/-!
# Written arguments are claimed

A definition writes an argument with one choice of hyphens and one separator, and it recognises
arguments by rules of their own, which try the separators in another order. This module shows that
the two agree on every argument that the definition writes (`takes_render`): the first token is
claimed by the definition, and the claim takes exactly the written tokens and gives the written
value back.

There are two conditions. The name must not begin with a hyphen, which would be counted with those
in front of it. And one value is lost: the empty value of an option that writes it behind the name
at once but reads a bare name as one whose value is the next token (`Loses`).

The name is the first of the definition's names, and it fits, so the aliases have no say.
-/

namespace ArgScan

/-! ## Hyphens -/

/-- The hyphens that are written before a name may stand before it. -/
theorem Facets.allowsHyphens_hyphenCountFor (f : Facets) (name : String) :
    f.AllowsHyphens name (f.hyphenCountFor name) := by
  rw [← acceptsHyphens_eq_true_iff]
  unfold acceptsHyphens hyphenCountFor
  cases f.singleHyphen <;> cases f.doubleHyphen <;> simp

/-- There is at least one hyphen before a name. -/
theorem Facets.hyphenCountFor_ne_zero (f : Facets) (name : String) : f.hyphenCountFor name ≠ 0 := by
  unfold hyphenCountFor inferredHyphens
  split_ifs <;> omega

/-- Hyphens before a text that does not begin with one are the leading hyphens. -/
theorem takeWhile_replicate_hyphen (n : Nat) {cs : List Char} (h : cs.head? ≠ some '-') :
    (List.replicate n '-' ++ cs).takeWhile (· = '-') = List.replicate n '-' := by
  apply takeWhile_append_of_head?
  · intro c hc
    rw [decide_eq_true_eq]
    exact List.eq_of_mem_replicate hc
  · intro c hc
    rw [decide_eq_false_iff_not]
    rintro rfl
    exact h hc

namespace Definition

/-- The characters of a written name with a text behind it. -/
theorem toList_head_append (d : Definition) (s : String) :
    (d.head ++ s).toList =
      List.replicate (d.facets.hyphenCountFor d.name) '-' ++ (d.name.toList ++ s.toList) := by
  unfold head hyphens
  rw [String.toList_append, String.toList_append, String.toList_ofList, List.append_assoc]

/-- A name that does not begin with a hyphen has a first character that is none. -/
theorem head?_name_append {d : Definition} (hname : d.name.toList.head? ≠ some '-')
    (cs : List Char) : (d.name.toList ++ cs).head? ≠ some '-' := by
  cases h : d.name.toList with
  | nil => exact absurd (String.toList_eq_nil_iff.1 h) d.name_ne
  | cons c rest => rwa [h] at hname

/-- What is written behind the name decides the claim, whatever the aliases are. -/
theorem claim?_head_append {d : Definition} (hname : d.name.toList.head? ≠ some '-') {s : String}
    {c : Claim} (h : d.Reads s.toList c) : d.claim? (d.head ++ s) = some c := by
  have hcount : hyphenCount (d.head ++ s) = d.facets.hyphenCountFor d.name := by
    unfold hyphenCount
    rw [d.toList_head_append, takeWhile_replicate_hyphen _ (head?_name_append hname _),
      List.length_replicate]
  have hfits : d.Fits d.name (d.head ++ s) s.toList := by
    refine ⟨?_, ?_, h.allowsEnding⟩
    · rw [hcount]
      exact d.facets.allowsHyphens_hyphenCountFor d.name
    · rw [hcount, d.toList_head_append, List.drop_left' List.length_replicate]
  -- The name is tried before the aliases.
  exact claim?_eq_some_iff_firstFits.2 ⟨d.name, s.toList, ⟨[], d.aliases, rfl, nofun, hfits⟩, h⟩

/-- A bare name decides the claim as well. -/
theorem claim?_head {d : Definition} (hname : d.name.toList.head? ≠ some '-') {c : Claim}
    (h : d.Reads [] c) : d.claim? d.head = some c := by
  have hclaim := claim?_head_append hname (s := "") h
  rwa [String.append_empty] at hclaim

/-! ## Written arguments -/

/-- A definition takes the given tokens as one occurrence with the given finding, whatever follows
them. -/
def Takes (d : Definition) (tokens : List String) (finding : Finding) : Prop :=
  ∃ first extra claim taking, tokens = first :: extra ∧ d.claim? first = some claim ∧
    (∀ rest, claim.taking (extra ++ rest) = (taking, rest)) ∧ taking.finding = finding

/-- The finding that a written argument should give back. -/
def findingOf (d : Definition) (value : Option String) : Finding :=
  if d.isFlag then .flag else .found value

/-- The value that is written behind the name at once but not read back from there: the empty one,
of an option that takes the next token for the value of a bare name. -/
def Loses (d : Definition) (value : Option String) : Prop :=
  d.kind = .option ∧ d.facets.attached = true ∧ d.facets.nextToken = true ∧
    d.facets.equals = false ∧ value = some ""

instance (d : Definition) (value : Option String) : Decidable (d.Loses value) :=
  inferInstanceAs (Decidable (_ ∧ _))

/-- A text is lost exactly if it is empty, under the conditions on the option. -/
theorem loses_some_iff (d : Definition) (v : String) :
    d.Loses (some v) ↔ d.kind = .option ∧ d.facets.attached = true ∧ d.facets.nextToken = true ∧
      d.facets.equals = false ∧ v = "" := by
  unfold Loses
  rw [Option.some.injEq]

/-- A written flag is taken. -/
theorem takes_flag {d : Definition} (hname : d.name.toList.head? ≠ some '-')
    (hkind : d.kind = .flag) : d.Takes [d.head] .flag :=
  ⟨d.head, [], .flag, .alone none, rfl, claim?_head hname (.flag hkind), fun _ => rfl, rfl⟩

/-- A value behind an equals sign is taken with its option. -/
theorem takes_equals {d : Definition} (hname : d.name.toList.head? ≠ some '-')
    (hkind : d.kind = .option) (he : d.facets.equals = true) (v : String) :
    d.Takes [d.head ++ "=" ++ v] (.found (some v)) := by
  have hreads : d.Reads ("=" ++ v).toList (.inline v) := by
    have h := Reads.equals v.toList hkind he
    rw [String.ofList_toList] at h
    simpa using h
  rw [String.append_assoc]
  exact ⟨_, [], .inline v, .alone (some v), rfl, claim?_head_append hname hreads, fun _ => rfl, rfl⟩

/-- A value behind the name is taken with its option, unless it is lost. -/
theorem takes_attached {d : Definition} (hname : d.name.toList.head? ≠ some '-')
    (hkind : d.kind = .option) (ha : d.facets.attached = true) (he : d.facets.equals = false)
    {v : String} (hkeep : ¬ d.Loses (some v)) : d.Takes [d.head ++ v] (.found (some v)) := by
  have hequals : ¬ (v.toList.head? = some '=' ∧ d.facets.equals = true) := by
    rintro ⟨-, h⟩
    exact Bool.false_ne_true (he.symm.trans h)
  -- A bare name would be read as one whose value is the next token.
  have hnext : ¬ (v.toList = [] ∧ d.facets.ReadsNextToken) := by
    rintro ⟨hv, hn | ⟨hnot, -⟩⟩
    · exact hkeep ⟨hkind, ha, hn, he, congrArg some (String.toList_eq_nil_iff.1 hv)⟩
    · exact Bool.false_ne_true (hnot.symm.trans ha)
  have hreads := Reads.attached v.toList hkind ha hequals hnext
  rw [String.ofList_toList] at hreads
  exact ⟨_, [], .inline v, .alone (some v), rfl, claim?_head_append hname hreads, fun _ => rfl, rfl⟩

/-- A value in the next token is taken with its option. -/
theorem takes_next {d : Definition} (hname : d.name.toList.head? ≠ some '-')
    (hkind : d.kind = .option) (ha : d.facets.attached = false) (he : d.facets.equals = false)
    (v : String) : d.Takes [d.head, v] (.found (some v)) := by
  have hnext : d.facets.ReadsNextToken := by
    cases hn : d.facets.nextToken with
    | true => exact .inl hn
    | false => exact .inr ⟨ha, he, hn⟩
  have hclaim := claim?_head hname (.next hkind hnext)
  exact ⟨d.head, [v], .next, .pair v, rfl, hclaim, fun _ => rfl, rfl⟩

/-- The tokens of a written argument are taken and give the value back, unless it is lost. -/
theorem takes_render {d : Definition} (hname : d.name.toList.head? ≠ some '-')
    {value : Option String} {r : Rendering} (hr : d.render value = .ok r)
    (hkeep : ¬ d.Loses value) : d.Takes r.tokens (d.findingOf value) := by
  unfold render at hr
  unfold findingOf
  cases hkind : d.kind with
  | flag =>
    have hflag : d.isFlag = true := by simp [isFlag, hkind]
    rw [if_pos hflag] at hr ⊢
    cases hr
    exact takes_flag hname hkind
  | option =>
    have hoption : ¬ d.isFlag = true := by simp [isFlag, hkind]
    rw [if_neg hoption] at hr ⊢
    cases value with
    | none => cases hr
    | some v =>
      simp only at hr
      split_ifs at hr with he ha
      · cases hr
        exact takes_equals hname hkind he v
      · cases hr
        exact takes_attached hname hkind ha (by simpa using he) hkeep
      · cases hr
        exact takes_next hname hkind (by simpa using ha) (by simpa using he) v

/-- Every argument can be written with a value. -/
theorem render_some (d : Definition) (v : String) : ∃ r, d.render (some v) = .ok r := by
  unfold render
  split_ifs <;> exact ⟨_, rfl⟩

/-- A value that is lost is written as a bare name. -/
theorem tokens_render_of_loses {d : Definition} {value : Option String} {r : Rendering}
    (hr : d.render value = .ok r) (h : d.Loses value) : r.tokens = [d.head] := by
  obtain ⟨hkind, ha, -, he, rfl⟩ := h
  unfold render at hr
  simp only [isFlag, hkind, he, ha] at hr
  cases hr
  simp [Rendering.one]

/-- A bare name whose value is lost takes the next token. -/
theorem claim?_head_of_loses {d : Definition} (hname : d.name.toList.head? ≠ some '-')
    {value : Option String} (h : d.Loses value) : d.claim? d.head = some .next := by
  obtain ⟨hkind, -, hn, -, -⟩ := h
  exact claim?_head hname (.next hkind (.inl hn))

end Definition

end ArgScan
