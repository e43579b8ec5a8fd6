import ArgScan.Proofs.Reading

/-!
# A scan follows the reading

A scan deletes from its live list, and a reading deletes nothing. Between two passes the live list
is made of the tokens that were kept, all of them before the position, and of those that no pass has
looked at, untouched. So the state of a scan is its `Progress` (the tallies, the kept tokens and the
notes) together with the tokens that are still to be read.

One pass reads one part: `step_scan_of_none` and `step_scan_of_some` say that it leads to the
progress with that part entered, and to the tokens behind it. `run_scan` repeats this along the
whole reading, and needs no more passes than there are tokens. The final state is then the reading
entered part by part (`scan_eq`), which gives the tokens left (`tokens_after_start`) and the
findings (`findings_after_start`).
-/

namespace ArgScan

/-- How far a scan has come. -/
structure Progress where
  /-- The definitions with what was found for each. -/
  tallies : List Tally
  /-- The tokens that were kept. -/
  kept : List String := []
  /-- The notes so far. -/
  notices : List Notice := []

/-- The notes on an occurrence of the definition at a position of the batch, behind a number of kept
tokens. -/
def occurrenceNotices (tallies : List Tally) (position owner : Nat) (head : String) (k : Taking) :
    List Notice :=
  match tallies[owner]? with
  | none => []
  | some t => (t.record k.finding).notices position head
      { finding := k.finding, tokens := [], dangling := k.isDangling }

namespace Progress

/-- The progress before the first pass. -/
def start (definitions : List Definition) : Progress where
  tallies := definitions.map fun d => { definition := d }

/-- The batch of definitions. -/
def definitions (p : Progress) : List Definition := p.tallies.map Tally.definition

/-- The state of the scan, with the tokens that are still to be read. -/
def scan (p : Progress) (rest : List String) : Scan where
  tallies := p.tallies
  position := p.kept.length
  tokens := p.kept ++ rest
  notices := p.notices

/-- Enters a part of the reading. -/
def enter (p : Progress) : Part → Progress
  | .kept token => { p with kept := p.kept ++ [token] }
  | .taken owner head k =>
    { p with
      tallies := p.tallies.modify owner (·.record k.finding)
      notices := p.notices ++ occurrenceNotices p.tallies p.kept.length owner head k }

/-- Enters the parts of a reading in order. -/
def after (p : Progress) (parts : List Part) : Progress := parts.foldl enter p

end Progress

/-! ## One pass -/

/-- Recording a finding does not change the definition. -/
theorem Tally.definition_record (t : Tally) (f : Finding) :
    (t.record f).definition = t.definition := by
  unfold record
  split <;> rfl

/-- No tally is hit if no definition claims the token. -/
theorem firstHit_of_none {tallies : List Tally} {t : String}
    (h : claimant? (tallies.map Tally.definition) t = none) (front rest : List String) :
    firstHit front.length (front ++ t :: rest) tallies = .ok none := by
  induction tallies with
  | nil => rfl
  | cons tally tallies ih =>
    rw [List.map_cons] at h
    cases hc : tally.definition.claim? t with
    | some c =>
      rw [claimant?_cons_of_some _ hc] at h
      contradiction
    | none =>
      rw [claimant?_cons_of_none _ hc, Option.map_eq_none_iff] at h
      unfold firstHit
      rw [Definition.takeAt_append, hc, ih h]
      rfl

/-- The tally of the claimant is hit: it takes what its claim takes, and the finding is recorded.
-/
theorem firstHit_of_some {tallies : List Tally} {t : String} {i : Nat} {c : Claim}
    (h : claimant? (tallies.map Tally.definition) t = some (i, c)) (front rest : List String) :
    firstHit front.length (front ++ t :: rest) tallies = .ok (some
      { tallies := tallies.modify i (·.record (c.taking rest).1.finding)
        tokens := front ++ (c.taking rest).2
        notices := occurrenceNotices tallies front.length i t (c.taking rest).1 }) := by
  induction tallies generalizing i with
  | nil => simp [claimant?] at h
  | cons tally tallies ih =>
    rw [List.map_cons] at h
    unfold firstHit
    rw [Definition.takeAt_append]
    cases hc : tally.definition.claim? t with
    | some c' =>
      -- The first tally is the claimant's, and the loop ends here.
      rw [claimant?_cons_of_some _ hc] at h
      obtain ⟨rfl, rfl⟩ : 0 = i ∧ c' = c := by simpa using h
      have hpresent := (c'.taking rest).1.present_finding
      simp only [bind, Except.bind, hpresent, if_true, getD_length_append]
      rfl
    | none =>
      -- A probe that finds nothing gives the tokens back as they were, so the rest of the batch
      -- sees the same token at the same position.
      rw [claimant?_cons_of_none _ hc, Option.map_eq_some_iff] at h
      obtain ⟨⟨j, c'⟩, hj, hjc⟩ := h
      obtain ⟨rfl, rfl⟩ : j + 1 = i ∧ c' = c := by simpa using hjc
      simp only [bind, Except.bind, ih hj]
      rfl

namespace Progress

/-- Entering a part does not change the batch. -/
theorem definitions_enter (p : Progress) (part : Part) :
    (p.enter part).definitions = p.definitions := by
  cases part with
  | kept token => rfl
  | taken owner head k =>
    unfold enter definitions
    apply List.ext_getElem?
    intro i
    rw [List.getElem?_map, List.getElem?_map, List.getElem?_modify]
    cases p.tallies[i]? with
    | none => rfl
    | some t =>
      by_cases h : owner = i
      · simp [h, Tally.definition_record]
      · simp [h]

/-- The position is one of the list while a token is to be read. -/
theorem position_scan_lt (p : Progress) (t : String) (rest : List String) :
    (p.scan (t :: rest)).position < (p.scan (t :: rest)).tokens.length :=
  length_lt_length_append_cons p.kept t rest

/-- A pass at a token without a claimant keeps it. -/
theorem step_scan_of_none {p : Progress} {t : String} (h : claimant? p.definitions t = none)
    (rest : List String) :
    (p.scan (t :: rest)).step = .ok (some ((p.enter (.kept t)).scan rest)) := by
  unfold Scan.step
  rw [if_pos (p.position_scan_lt t rest)]
  simp only [scan, firstHit_of_none h]
  -- The position moves over the token instead of the token moving to the kept ones.
  simp [bind, Except.bind, pure, Except.pure, enter]

/-- A pass at a token with a claimant enters the occurrence, and the tokens behind it move up. -/
theorem step_scan_of_some {p : Progress} {t : String} {i : Nat} {c : Claim}
    (h : claimant? p.definitions t = some (i, c)) (rest : List String) :
    (p.scan (t :: rest)).step =
      .ok (some ((p.enter (.taken i t (c.taking rest).1)).scan (c.taking rest).2)) := by
  unfold Scan.step
  rw [if_pos (p.position_scan_lt t rest)]
  simp only [scan, firstHit_of_some h]
  rfl

/-- There is no pass when all tokens have been read. -/
theorem step_scan_nil (p : Progress) : (p.scan []).step = .ok none := by
  have hge : ¬ (p.scan []).position < (p.scan []).tokens.length := by
    show ¬ p.kept.length < (p.kept ++ []).length
    rw [List.append_nil]
    exact Nat.lt_irrefl _
  unfold Scan.step
  rw [if_neg hge]

end Progress

/-! ## A whole run -/

/-- A run goes on from the state that its first pass leads to. -/
theorem Scan.run_of_step_some {s next : Scan} (h : s.step = .ok (some next)) (passes : Nat) :
    Scan.run (passes + 1) s = Scan.run passes next := by
  rw [Scan.run, h]
  rfl

/-- A run ends where there is no pass. -/
theorem Scan.run_of_step_none {s : Scan} (h : s.step = .ok none) (passes : Nat) :
    Scan.run passes s = .ok s := by
  cases passes with
  | zero => rfl
  | succ passes =>
    rw [Scan.run, h]
    rfl

namespace Progress

/-- The parts of a reading are entered one after another. -/
theorem after_cons (p : Progress) (part : Part) (parts : List Part) :
    p.after (part :: parts) = (p.enter part).after parts := rfl

/-- As many passes as there are tokens to be read enter their whole reading. -/
theorem run_scan {ds : List Definition} (ts : List String) :
    ∀ (p : Progress) (n : Nat), p.definitions = ds → ts.length ≤ n →
      Scan.run n (p.scan ts) = .ok ((p.after (reading ds ts)).scan []) := by
  induction ts using reading_induction ds with
  | nil =>
    intro p n _ _
    exact Scan.run_of_step_none p.step_scan_nil n
  | kept t rest h ih =>
    intro p n hp hn
    rw [List.length_cons] at hn
    obtain ⟨m, rfl⟩ : ∃ m, n = m + 1 := Nat.exists_eq_succ_of_ne_zero (by omega)
    have hstep := step_scan_of_none (by rwa [hp]) rest
    have hdefs : (p.enter (.kept t)).definitions = ds := by rw [definitions_enter, hp]
    rw [Scan.run_of_step_some hstep, reading_cons_of_none h, after_cons]
    exact ih _ m hdefs (by omega)
  | taken t rest i c h ih =>
    intro p n hp hn
    rw [List.length_cons] at hn
    obtain ⟨m, rfl⟩ : ∃ m, n = m + 1 := Nat.exists_eq_succ_of_ne_zero (by omega)
    have hstep := step_scan_of_some (by rwa [hp]) rest
    have hdefs : (p.enter (.taken i t (c.taking rest).1)).definitions = ds := by
      rw [definitions_enter, hp]
    -- An occurrence takes a pass and one or two tokens, so the passes still suffice.
    have hle := (c.taking_isSuffix rest).length_le
    rw [Scan.run_of_step_some hstep, reading_cons_of_some h, after_cons]
    exact ih _ m hdefs (by omega)

/-- The batch before the first pass. -/
theorem definitions_start (ds : List Definition) : (start ds).definitions = ds := by
  unfold start definitions
  rw [List.map_map]
  exact List.map_id ds

end Progress

/-- A scan ends with the whole reading entered. -/
theorem scan_eq (ds : List Definition) (ts : List String) :
    scan ds ts = .ok (((Progress.start ds).after (reading ds ts)).scan []) :=
  Progress.run_scan ts (.start ds) ts.length (Progress.definitions_start ds) (Nat.le_refl _)

/-! ## What a scan gives -/

/-- The kept tokens are those of the parts, behind those kept before. -/
theorem Progress.kept_after (p : Progress) (parts : List Part) :
    (p.after parts).kept = p.kept ++ keptTokens parts := by
  induction parts generalizing p with
  | nil => exact (List.append_nil _).symm
  | cons part parts ih =>
    rw [after_cons, ih]
    cases part with
    | kept t => rw [keptTokens_kept_cons, enter, List.append_assoc]; rfl
    | taken owner head k => rfl

/-- The tokens left after a scan are those that the reading keeps. -/
theorem tokens_after_start (ds : List Definition) (parts : List Part) :
    (((Progress.start ds).after parts).scan []).tokens = keptTokens parts := by
  calc (((Progress.start ds).after parts).scan []).tokens
      = ((Progress.start ds).after parts).kept := List.append_nil _
    _ = (Progress.start ds).kept ++ keptTokens parts := Progress.kept_after _ parts
    _ = keptTokens parts := rfl

/-- The finding of a recorded occurrence. -/
theorem Tally.finding_record (t : Tally) (k : Taking) :
    (t.record k.finding).finding = k.finding := by
  unfold record
  rw [if_pos k.present_finding]

/-- A finding stands until the next occurrence of the same definition. -/
theorem Progress.finding_after (p : Progress) (parts : List Part) (i : Nat) :
    (p.after parts).tallies[i]?.map Tally.finding =
      p.tallies[i]?.map fun t =>
        ((parts.filterMap (Part.findingFor? i)).getLast?).getD t.finding := by
  induction parts generalizing p with
  | nil => rfl
  | cons part parts ih =>
    -- What the first part gives is the finding to fall back on if no later part gives another.
    rw [after_cons, ih]
    cases part with
    | kept t => rfl
    | taken owner head k =>
      unfold enter
      rw [List.getElem?_modify]
      cases p.tallies[i]? with
      | none => rfl
      | some t =>
        by_cases h : owner = i
        · subst h
          simp only [if_pos, Option.map_eq_map, Option.map_some, t.finding_record,
            List.filterMap_cons_some (Part.findingFor?_taken_self owner head k),
            List.getLast?_cons, Option.getD_some]
        · simp only [if_neg h, Option.map_eq_map, Option.map_some,
            List.filterMap_cons_none (Part.findingFor?_taken_of_ne h head k)]

/-- What was found for each definition is what its last occurrence gives. -/
theorem findings_after_start (ds : List Definition) (parts : List Part) :
    (((Progress.start ds).after parts).scan []).findings =
      (List.range ds.length).map (lastFinding parts) := by
  apply List.ext_getElem?
  intro i
  have hi : (((Progress.start ds).after parts).scan []).findings[i]? =
      (ds[i]?.map fun _ => lastFinding parts i) := by
    unfold Scan.findings Progress.scan
    rw [List.getElem?_map, Progress.finding_after, Progress.start, List.getElem?_map,
      Option.map_map]
    rfl
  rw [hi, List.getElem?_map]
  by_cases h : i < ds.length
  · rw [List.getElem?_eq_getElem h, List.getElem?_range h]
    rfl
  · rw [List.getElem?_eq_none (by omega), List.getElem?_eq_none (by rw [List.length_range]; omega)]
    rfl

/-- A scan succeeds; the tokens left and the findings are those of the reading. -/
theorem exists_scan_eq_ok (ds : List Definition) (ts : List String) :
    ∃ s, scan ds ts = .ok s ∧ s.tokens = keptTokens (reading ds ts) ∧
      s.findings = (List.range ds.length).map (lastFinding (reading ds ts)) :=
  ⟨_, scan_eq ds ts, tokens_after_start ds _, findings_after_start ds _⟩

/-- A scan, which deletes what it takes from the list that it walks over, gives what the reading
gives, which deletes nothing. The reading cuts the tokens into parts without loss; the tokens left
are the kept ones, and the finding of each definition is that of its last occurrence. -/
theorem scan_eq_reading (definitions : List Definition) (tokens : List String) :
    (reading definitions tokens).flatMap Part.tokens = tokens ∧
      ∃ s, scan definitions tokens = .ok s ∧
        s.tokens = keptTokens (reading definitions tokens) ∧
        s.findings =
          (List.range definitions.length).map (lastFinding (reading definitions tokens)) :=
  ⟨tokens_reading definitions tokens, _, scan_eq definitions tokens,
    tokens_after_start definitions _, findings_after_start definitions _⟩

end ArgScan
