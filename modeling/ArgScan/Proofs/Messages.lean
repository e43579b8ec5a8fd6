import ArgScan.Proofs.Joining

/-!
# The messages of a scan

A scan makes a note of each occurrence that it takes. This module shows that the messages are a
trace of the reading, and of nothing else: what is said about an occurrence is a function of the
parts in front of it (`Part.messages`). They give the number of tokens kept so far, which is the
position on the live list, and the number of occurrences of the same definition so far.

A scan does not look back at those parts; it keeps a tally for each definition. The argument is that
the tallies are the counts of the parts entered (`Progress.counts_after_start`). From this, entering
a part makes the notes that the part should have (`map_message_occurrenceNotices`), and a whole
reading makes them in order (`map_message_notices_after`). The parts behind an occurrence are the
reading of the tokens behind it (`exists_claim_of_reading_eq`), and this shows where the message on
a missing value stands: with the last part, and nowhere else.
-/

namespace ArgScan

/-! ## The messages of a part -/

/-- The position of the definition that a part is an occurrence of. -/
def Part.owner? : Part → Option Nat
  | kept _ => none
  | taken owner _ _ => some owner

/-- The number of occurrences of the definition at a position. -/
def timesTaken (parts : List Part) (i : Nat) : Nat :=
  parts.countP fun part => part.owner? = some i

/-- The messages about an occurrence of a definition, behind a number of kept tokens and of earlier
occurrences. There is one, on the finding if the occurrence is the first, and on the token that it
begins with otherwise. If the value should have been the next token and there is none, another
message comes before it. -/
def occurrenceMessages (name : String) (kept earlier : Nat) (head : String) (k : Taking) :
    List String :=
  (if k = .dangling then ["Option '" ++ name ++ "' is the last token and has no value"] else []) ++
    [if earlier = 0 then
        "Matched '" ++ name ++ "' at " ++ Text.decimal kept ++ ": " ++ k.finding.literal
      else
        "'" ++ name ++ "' given " ++ Text.decimal (earlier + 1) ++
          " times, keeping the value from " ++ Text.quoted head]

/-- The messages about a part that stands behind others. A kept token has none. -/
def Part.messages (ds : List Definition) (earlier : List Part) : Part → List String
  | kept _ => []
  | taken owner head k =>
    match ds[owner]? with
    | none => []
    | some d =>
      occurrenceMessages d.name (keptTokens earlier).length (timesTaken earlier owner) head k

/-- The messages about parts that stand behind others, in order. -/
def messages (ds : List Definition) (earlier : List Part) : List Part → List String
  | [] => []
  | part :: later => part.messages ds earlier ++ messages ds (earlier ++ [part]) later

/-! ## Tallies as counts -/

/-- A further part counts for the definition that it is an occurrence of. -/
theorem timesTaken_cons (part : Part) (parts : List Part) (i : Nat) :
    timesTaken (part :: parts) i = timesTaken parts i + if part.owner? = some i then 1 else 0 := by
  unfold timesTaken
  rw [List.countP_cons]
  simp only [decide_eq_true_eq]

/-- An occurrence is counted. -/
theorem Tally.occurrences_record (t : Tally) (k : Taking) :
    (t.record k.finding).occurrences = t.occurrences + 1 := by
  unfold record
  rw [if_pos k.present_finding]

/-- Entering parts adds their occurrences to the tallies, and keeps the definitions. -/
theorem Progress.counts_after (p : Progress) (parts : List Part) (i : Nat) :
    ((p.after parts).tallies[i]?.map fun t => (t.definition, t.occurrences)) =
      p.tallies[i]?.map fun t => (t.definition, t.occurrences + timesTaken parts i) := by
  induction parts generalizing p with
  | nil => rfl
  | cons part parts ih =>
    rw [after_cons, ih, timesTaken_cons]
    cases part with
    | kept t => rfl
    | taken owner head k =>
      unfold enter
      rw [List.getElem?_modify]
      cases p.tallies[i]? with
      | none => rfl
      | some t =>
        -- Only an occurrence of this definition is recorded in its tally.
        by_cases h : owner = i
        · subst h
          simp only [if_pos, Option.map_eq_map, Option.map_some, t.definition_record,
            t.occurrences_record, Part.owner?]
          rw [Nat.add_assoc, Nat.add_comm 1]
        · have howner : (Part.taken owner head k).owner? ≠ some i := by simpa [Part.owner?] using h
          simp only [if_neg h, if_neg howner, Option.map_eq_map, Option.map_some, Nat.add_zero]

/-- From the start, the tallies are the counts of the parts entered. -/
theorem Progress.counts_after_start (ds : List Definition) (parts : List Part) (i : Nat) :
    (((start ds).after parts).tallies[i]?.map fun t => (t.definition, t.occurrences)) =
      ds[i]?.map fun d => (d, timesTaken parts i) := by
  rw [counts_after, start, List.getElem?_map, Option.map_map]
  cases ds[i]? with
  | none => rfl
  | some d => simp

/-! ## Messages of a run -/

/-- The notes on a recorded occurrence are the messages that its tally's counts call for. -/
theorem Tally.map_message_notices (t : Tally) (position : Nat) (head : String) (k : Taking) :
    ((t.record k.finding).notices position head
        { finding := k.finding, tokens := [], dangling := k.isDangling }).map Notice.message =
      occurrenceMessages t.definition.name position t.occurrences head k := by
  have hdangling : k.isDangling = true ↔ k = .dangling := by
    cases k <;> simp [Taking.isDangling]
  unfold notices occurrenceMessages
  rw [t.definition_record, t.occurrences_record, List.map_append]
  congr 1
  · by_cases hk : k = .dangling
    · rw [if_pos hk, if_pos (hdangling.2 hk)]
      rfl
    · rw [if_neg hk, if_neg (hdangling.not.2 hk)]
      rfl
  · by_cases hzero : t.occurrences = 0
    · rw [if_pos hzero, if_neg (by omega)]
      rfl
    · rw [if_neg hzero, if_pos (by omega)]
      rfl

/-- The notes on an occurrence behind the parts entered are its messages. -/
theorem map_message_occurrenceNotices (ds : List Definition) (earlier : List Part) (owner : Nat)
    (head : String) (k : Taking) :
    (occurrenceNotices ((Progress.start ds).after earlier).tallies
        ((Progress.start ds).after earlier).kept.length owner head k).map Notice.message =
      (Part.taken owner head k).messages ds earlier := by
  have hkept : ((Progress.start ds).after earlier).kept = keptTokens earlier :=
    Progress.kept_after _ earlier
  have hcounts := Progress.counts_after_start ds earlier owner
  unfold occurrenceNotices
  cases hd : ds[owner]? with
  | none =>
    rw [hd, Option.map_none, Option.map_eq_none_iff] at hcounts
    rw [hcounts, Part.messages, hd]
    rfl
  | some d =>
    rw [hd, Option.map_some, Option.map_eq_some_iff] at hcounts
    obtain ⟨t, ht, hcount⟩ := hcounts
    obtain ⟨rfl, htimes⟩ := Prod.mk.inj hcount
    rw [ht, Part.messages, hd, hkept, ← htimes]
    exact t.map_message_notices _ head k

/-- Entering parts makes their messages, behind those made before. -/
theorem map_message_notices_after (ds : List Definition) (earlier later : List Part) :
    (((Progress.start ds).after earlier).after later).notices.map Notice.message =
      ((Progress.start ds).after earlier).notices.map Notice.message ++
        messages ds earlier later := by
  induction later generalizing earlier with
  | nil => exact (List.append_nil _).symm
  | cons part later ih =>
    -- The part that is entered belongs to the past of those behind it.
    have hconcat : ((Progress.start ds).after earlier).enter part =
        (Progress.start ds).after (earlier ++ [part]) := by
      unfold Progress.after
      rw [List.foldl_concat]
    rw [Progress.after_cons, hconcat, ih, ← hconcat, messages, ← List.append_assoc]
    congr 1
    cases part with
    | kept t => exact (List.append_nil _).symm
    | taken owner head k =>
      rw [Progress.enter, List.map_append, map_message_occurrenceNotices]

/-! ## Parts at their places -/

variable {ds : List Definition}

/-- The parts at the end of a reading are the reading of their own tokens. -/
theorem reading_of_eq_append {ts : List String} {earlier later : List Part}
    (h : reading ds ts = earlier ++ later) :
    reading ds (later.flatMap Part.tokens) = later := by
  induction ts using reading_induction ds generalizing earlier with
  | nil =>
    obtain ⟨-, rfl⟩ := List.append_eq_nil_iff.1 h.symm
    rfl
  | kept t rest hc ih =>
    cases earlier with
    | nil => rw [← List.nil_append later, ← h, tokens_reading]
    | cons part earlier =>
      rw [reading_cons_of_none hc, List.cons_append] at h
      exact ih (List.cons.inj h).2
  | taken t rest i c hc ih =>
    cases earlier with
    | nil => rw [← List.nil_append later, ← h, tokens_reading]
    | cons part earlier =>
      rw [reading_cons_of_some hc, List.cons_append] at h
      exact ih (List.cons.inj h).2

/-- An occurrence is what the claim of its head takes from the tokens behind it, and the parts
behind it are the reading of the others. -/
theorem exists_claim_of_reading_eq {ts : List String} {earlier later : List Part} {owner : Nat}
    {head : String} {k : Taking} (h : reading ds ts = earlier ++ .taken owner head k :: later) :
    ∃ c, claimant? ds head = some (owner, c) ∧
      (c.taking (k.extra ++ later.flatMap Part.tokens)).1 = k ∧
      reading ds (c.taking (k.extra ++ later.flatMap Part.tokens)).2 = later := by
  have hread := reading_of_eq_append h
  rw [List.flatMap_cons, Part.tokens, List.cons_append] at hread
  cases hc : claimant? ds head with
  | none =>
    rw [reading_cons_of_none hc] at hread
    have hpart := (List.cons.inj hread).1
    contradiction
  | some found =>
    obtain ⟨i, c⟩ := found
    rw [reading_cons_of_some hc] at hread
    obtain ⟨hpart, hlater⟩ := List.cons.inj hread
    obtain ⟨rfl, -, hk⟩ := Part.taken.inj hpart
    exact ⟨c, rfl, hk, hlater⟩

/-- An occurrence without the token that would be its value is the last part. -/
theorem eq_nil_of_reading_eq_dangling {ts : List String} {earlier later : List Part} {owner : Nat}
    {head : String} (h : reading ds ts = earlier ++ .taken owner head .dangling :: later) :
    later = [] := by
  obtain ⟨c, -, hk, hlater⟩ := exists_claim_of_reading_eq h
  obtain ⟨rfl, hrest⟩ := Claim.eq_next_of_taking_dangling hk
  rw [hrest] at hlater
  exact hlater.symm

/-- The messages of a scan are those about the parts of the reading, in order: one for each
occurrence, and none for a kept token. The head that a message names is the token in the place of
the occurrence. An occurrence lacks its value, and has a message on this before its own, exactly if
its definition asks for the next token and the head is the last one. Then it is the last part, and
the only one of this kind. -/
theorem scan_messages (ds : List Definition) (ts : List String) :
    ∃ s, scan ds ts = .ok s ∧ s.notices.map Notice.message = messages ds [] (reading ds ts) ∧
      ∀ earlier owner head k later, reading ds ts = earlier ++ .taken owner head k :: later →
        ∃ d, ds[owner]? = some d ∧
          ts = earlier.flatMap Part.tokens ++ head :: (k.extra ++ later.flatMap Part.tokens) ∧
          (k = .dangling ↔
            d.claim? head = some .next ∧ ts = earlier.flatMap Part.tokens ++ [head]) ∧
          (k = .dangling → later = [] ∧ ∀ i t, .taken i t .dangling ∉ earlier) := by
  refine ⟨_, scan_eq ds ts, map_message_notices_after ds [] (reading ds ts), ?_⟩
  intro earlier owner head k later h
  obtain ⟨c, hclaimant, hk, hlater⟩ := exists_claim_of_reading_eq h
  obtain ⟨⟨d, hd, hclaim⟩, -⟩ := (claimant?_eq_some_iff ds head owner c).1 hclaimant
  have htokens := tokens_reading ds ts
  rw [h, List.flatMap_append, List.flatMap_cons, Part.tokens, List.cons_append] at htokens
  refine ⟨d, hd, htokens.symm, ?_, ?_⟩
  · constructor
    · rintro rfl
      obtain ⟨rfl, hrest⟩ := Claim.eq_next_of_taking_dangling hk
      rw [hrest] at htokens
      exact ⟨hclaim, htokens.symm⟩
    · rintro ⟨hnext, hlast⟩
      rw [hclaim] at hnext
      obtain rfl := Option.some.inj hnext
      rw [hlast] at htokens
      have hrest := (List.cons.inj (List.append_cancel_left htokens)).2
      rw [hrest] at hk
      exact hk.symm
  · rintro rfl
    refine ⟨eq_nil_of_reading_eq_dangling h, fun i t hmem => ?_⟩
    -- Another one further in front would be the last part as well.
    obtain ⟨front, back, rfl⟩ := List.append_of_mem hmem
    rw [List.append_assoc, List.cons_append] at h
    exact absurd (eq_nil_of_reading_eq_dangling h) (by simp)

/-- A first and a later occurrence of one option, a kept token and a flag; the option comes last a
third time, without a value. -/
example :
    (scan mixedBatch ["--name", "a", "x", "-v", "--name", "-v", "--name"]).map
        (fun s => s.notices.map Notice.message) =
      .ok ["Matched 'name' at 0: ArgMatch.found('a')",
        "Matched 'v' at 1: ArgMatch.FLAG_PRESENT",
        "'name' given 2 times, keeping the value from '--name'",
        "Option 'name' is the last token and has no value",
        "'name' given 3 times, keeping the value from '--name'"] := by
  rfl

end ArgScan
