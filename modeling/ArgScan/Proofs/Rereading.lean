import ArgScan.Proofs.RoundTrip

/-!
# Writing what was found

What a scan finds for a definition can be written by that definition, whatever spelling it was found
in: it may have come from an alias, from any separator or from a token of its own. What is written
is found again, as the same finding and without remainder, with one exception
(`scan_render_found_iff`). An option that writes its value behind the name at once, but takes the
next token for the value of a bare name, writes the empty value as a bare name. The empty value can
have been found, as a token of its own, so the exception does occur
(`exists_found_lost_when_rendered`). A name that begins with a hyphen is no spelling of its
definition at all, since its hyphens count with those before it.
-/

namespace ArgScan

variable {ds : List Definition}

/-! ## Where findings come from -/

/-- An occurrence takes what the claim of its head takes. -/
theorem exists_claim_of_taken_mem {ts : List String} {i : Nat} {head : String} {k : Taking}
    (hmem : .taken i head k ∈ reading ds ts) :
    ∃ c rest, claimant? ds head = some (i, c) ∧ (c.taking rest).1 = k := by
  induction ts using reading_induction ds with
  | nil => simp [reading] at hmem
  | kept t rest h ih =>
    rw [reading_cons_of_none h, List.mem_cons] at hmem
    rcases hmem with hmem | hmem
    · contradiction
    · exact ih hmem
  | taken t rest j c h ih =>
    rw [reading_cons_of_some h, List.mem_cons] at hmem
    rcases hmem with hmem | hmem
    · obtain ⟨rfl, rfl, rfl⟩ := hmem
      exact ⟨c, rest, h, rfl⟩
    · exact ih hmem

/-- What is found for a definition is the finding of one of its occurrences. -/
theorem exists_taken_of_lastFinding {parts : List Part} {i : Nat} {value : Option String}
    (h : lastFinding parts i = .found value) :
    ∃ head k, .taken i head k ∈ parts ∧ k.finding = .found value := by
  unfold lastFinding at h
  cases hlast : (parts.filterMap (Part.findingFor? i)).getLast? with
  | none =>
    rw [hlast] at h
    cases h
  | some f =>
    rw [hlast, Option.getD_some] at h
    obtain ⟨part, hpart, hf⟩ := List.mem_filterMap.1 (List.mem_of_getLast? hlast)
    cases part with
    | kept t => contradiction
    | taken owner head k =>
      by_cases howner : owner = i
      · subst howner
        rw [Part.findingFor?_taken_self, Option.some.injEq] at hf
        exact ⟨head, k, hpart, hf.trans h⟩
      · rw [Part.findingFor?_taken_of_ne howner] at hf
        contradiction

/-- A flag claims a token as a flag. -/
theorem Definition.claim?_of_flag {d : Definition} (hkind : d.kind = .flag) {t : String} {c : Claim}
    (h : d.claim? t = some c) : c = .flag := by
  obtain ⟨_, _, -, hreads⟩ := claim?_eq_some_iff_firstFits.1 h
  exact hreads.eq_flag hkind

/-- No value is found for a flag. -/
theorem value_eq_none_of_flag {d : Definition} {ts : List String} {i : Nat} {value : Option String}
    (hd : ds[i]? = some d) (hkind : d.kind = .flag)
    (h : lastFinding (reading ds ts) i = .found value) : value = none := by
  obtain ⟨head, k, hmem, hk⟩ := exists_taken_of_lastFinding h
  obtain ⟨c, rest, hc, rfl⟩ := exists_claim_of_taken_mem hmem
  obtain ⟨⟨d', hd', hclaim⟩, -⟩ := (claimant?_eq_some_iff ds head i c).1 hc
  obtain rfl : d = d' := Option.some.inj (hd.symm.trans hd')
  rw [Definition.claim?_of_flag hkind hclaim] at hk
  exact (Finding.mk.inj hk).2.symm

/-! ## Single definitions -/

/-- A scan for a single definition finds what the reading gives. -/
theorem findings_of_scan_singleton {d : Definition} {ts : List String} {s : Scan}
    (h : scan [d] ts = .ok s) : s.findings = [lastFinding (reading [d] ts) 0] := by
  obtain ⟨s', hs', -, hfindings⟩ := exists_scan_eq_ok [d] ts
  obtain rfl : s = s' := Except.ok.inj (h.symm.trans hs')
  exact hfindings

/-- What a definition writes is found again, unless its spelling loses the value. -/
theorem scan_render_of_not_loses {d : Definition} (hname : d.name.toList.head? ≠ some '-')
    {value : Option String} {r : Rendering} (hr : d.render value = .ok r)
    (hkeep : ¬ d.Loses value) :
    ∃ s, scan [d] r.tokens = .ok s ∧ s.findings = [d.findingOf value] ∧ s.tokens = [] := by
  have hd : [d][0]? = some d := rfl
  obtain ⟨head, k, hk, hread⟩ :=
    reading_takes hd (Definition.takes_render hname hr hkeep) (by simp) []
  rw [List.append_nil] at hread
  obtain ⟨s, hs, hfindings, htokens⟩ := scan_of_reading_eq_singleton hread
  exact ⟨s, hs, by rw [hfindings, hk], htokens⟩

/-- Of a value that the spelling loses only the presence is found again. -/
theorem scan_render_of_loses {d : Definition} (hname : d.name.toList.head? ≠ some '-')
    {value : Option String} {r : Rendering} (hr : d.render value = .ok r) (hlost : d.Loses value) :
    ∃ s, scan [d] r.tokens = .ok s ∧ s.findings = [.found none] ∧ s.tokens = [] := by
  have hclaimant := claimant?_cons_of_some [] (Definition.claim?_head_of_loses hname hlost)
  have hread : reading [d] r.tokens = [.taken 0 d.head .dangling] := by
    rw [Definition.tokens_render_of_loses hr hlost, reading_cons_of_some hclaimant]
    rfl
  exact scan_of_reading_eq_singleton hread

/-- Every flag can be written, and every option with a value. -/
theorem Definition.exists_render (d : Definition) {value : Option String}
    (hvalue : d.kind = .option → value.isSome = true) : ∃ r, d.render value = .ok r := by
  cases value with
  | some v => exact d.render_some v
  | none =>
    cases hkind : d.kind with
    | flag => exact ⟨.one d.head, by unfold render; rw [if_pos (by simp [isFlag, hkind])]⟩
    | option => exact absurd (hvalue hkind) (by simp)

/-- What a scan found for a definition, with a value if it is an option, the definition can write,
and a scan finds the same in what is written and leaves nothing of it, exactly if the spelling does
not lose the value. -/
theorem scan_render_found_iff (d : Definition) (hname : d.name.toList.head? ≠ some '-')
    (ts : List String) (s : Scan) (hs : scan [d] ts = .ok s) (value : Option String)
    (hfound : s.findings = [.found value]) (hvalue : d.kind = .option → value.isSome = true) :
    ∃ rendering, d.render value = .ok rendering ∧
      ((∃ s', scan [d] rendering.tokens = .ok s' ∧ s'.findings = s.findings ∧ s'.tokens = []) ↔
        ¬ (d.kind = .option ∧ d.facets.attached = true ∧ d.facets.nextToken = true ∧
          d.facets.equals = false ∧ value = some "")) := by
  obtain ⟨r, hr⟩ := d.exists_render hvalue
  refine ⟨r, hr, ?_⟩
  constructor
  · -- The lost value would be found as a presence without a value.
    rintro ⟨s', hs', hfindings, -⟩ hlost
    obtain ⟨s'', hs'', hfindings'', -⟩ := scan_render_of_loses hname hr hlost
    obtain rfl : s' = s'' := Except.ok.inj (hs'.symm.trans hs'')
    rw [hfindings'', hfound, hlost.2.2.2.2] at hfindings
    contradiction
  · intro hkeep
    obtain ⟨s', hs', hfindings, htokens⟩ := scan_render_of_not_loses hname hr hkeep
    refine ⟨s', hs', ?_, htokens⟩
    rw [hfindings, hfound]
    unfold Definition.findingOf
    cases hkind : d.kind with
    | option => rw [if_neg (by simp [Definition.isFlag, hkind])]
    | flag =>
      -- A flag has been found without a value.
      have hreading : lastFinding (reading [d] ts) 0 = .found value :=
        List.singleton_inj.1 ((findings_of_scan_singleton hs).symm.trans hfound)
      have hd : [d][0]? = some d := rfl
      rw [if_pos (by simp [Definition.isFlag, hkind]), value_eq_none_of_flag hd hkind hreading]
      rfl

/-- A value that was found behind an alias, in a token of its own that looks like the option, is
written behind the name and an equals sign, and is found again there. -/
theorem scan_render_found_iff_alias :
    nameOption.name.toList.head? ≠ some '-' ∧
      (nameOption.kind = .option → (some "--name").isSome = true) ∧
      ∃ s s', scan [nameOption] ["file", "-n", "--name"] = .ok s ∧
        s.findings = [.found (some "--name")] ∧
        scan [nameOption] ["--name=--name"] = .ok s' ∧ s'.findings = s.findings ∧
        s'.tokens = [] := by
  have hname : nameOption.name.toList.head? ≠ some '-' := by decide
  have hvalue : nameOption.kind = .option → (some "--name").isSome = true := fun _ => rfl
  obtain ⟨s, hs, hfound⟩ : ∃ s, scan [nameOption] ["file", "-n", "--name"] = .ok s ∧
      s.findings = [.found (some "--name")] := ⟨_, rfl, rfl⟩
  obtain ⟨r, hr, hiff⟩ := scan_render_found_iff nameOption hname ["file", "-n", "--name"] s hs
    (some "--name") hfound hvalue
  obtain rfl : .one "--name=--name" = r := Except.ok.inj hr
  obtain ⟨s', hs', hfindings, htokens⟩ := hiff.2 (by decide)
  exact ⟨hname, hvalue, s, s', hs, hfound, hs', hfindings, htokens⟩

/-- An option that writes its value behind the name at once, and takes the next token for the value
of a bare name. -/
def bareOption : Definition where
  kind := .option
  name := "s"
  aliases := ["size"]
  facets := { attached := true, nextToken := true }
  name_ne := by decide
  alias_ne := by decide

/-- A flag with a name that begins with a hyphen, and an alias that does not. -/
def hyphenNameFlag : Definition where
  kind := .flag
  name := "-x"
  aliases := ["y"]
  facets := .none
  name_ne := by decide
  alias_ne := by decide

/-- Not everything that is found is found again where it is written: the empty value is lost behind
a bare name, and a name that begins with a hyphen is not recognised. -/
theorem exists_found_lost_when_rendered :
    (∃ s r s', scan [bareOption] ["-s", ""] = .ok s ∧ s.findings = [.found (some "")] ∧
      bareOption.render (some "") = .ok r ∧ scan [bareOption] r.tokens = .ok s' ∧
      s'.findings ≠ s.findings) ∧
    ∃ s r s', scan [hyphenNameFlag] ["-y"] = .ok s ∧ s.findings = [.flag] ∧
      hyphenNameFlag.render none = .ok r ∧ scan [hyphenNameFlag] r.tokens = .ok s' ∧
      s'.findings ≠ s.findings ∧ s'.tokens ≠ [] :=
  ⟨⟨_, _, _, rfl, rfl, rfl, rfl, by decide⟩, ⟨_, _, _, rfl, rfl, rfl, rfl, by decide, by decide⟩⟩

end ArgScan
