import ArgScan.Proofs.Claims

/-!
# Readings of a token list

A scan takes tokens out of the list that it walks over. A reading says what this comes to without
taking anything out: it cuts the list into parts, from left to right, once and for all. A token that
no definition of the batch claims is a part of its own and is kept. Any other token is the head of
an occurrence of its claimant, which takes the head, and perhaps the token after it, and the reading
goes on behind what was taken. What was found for a definition is what its last occurrence gives.

Nothing is lost between the parts (`tokens_reading`), what is kept is claimed by no definition
(`not_claims_of_mem_kept`), and an occurrence belongs to the first definition that claims its head
(`claimant?_of_taken_mem`). The proofs go by `reading_induction`, with a case for no token, for a
kept one and for an occurrence.
-/

namespace ArgScan

/-- A part of a reading. -/
inductive Part where
  /-- A token that stays. -/
  | kept (token : String)
  /-- An occurrence of the definition at a position of the batch. -/
  | taken (owner : Nat) (head : String) (taking : Taking)
deriving DecidableEq

/-- The tokens that a part consists of. -/
def Part.tokens : Part → List String
  | kept token => [token]
  | taken _ head taking => head :: taking.extra

/-- The token that a part keeps, if it keeps one. -/
def Part.kept? : Part → Option String
  | kept token => some token
  | taken .. => none

/-- The finding that a part gives for the definition at a position, if it is an occurrence of it. -/
def Part.findingFor? (i : Nat) : Part → Option Finding
  | kept _ => none
  | taken owner _ taking => if owner = i then some taking.finding else none

/-- Reads tokens for a batch of definitions. -/
def reading (definitions : List Definition) : List String → List Part
  | [] => []
  | t :: rest =>
    match claimant? definitions t with
    | none => .kept t :: reading definitions rest
    | some (i, .flag) => .taken i t (.alone none) :: reading definitions rest
    | some (i, .inline value) => .taken i t (.alone (some value)) :: reading definitions rest
    | some (i, .next) =>
      match rest with
      | [] => [.taken i t .dangling]
      | value :: after => .taken i t (.pair value) :: reading definitions after

/-- The tokens that a reading keeps, in order. -/
def keptTokens (parts : List Part) : List String := parts.filterMap Part.kept?

/-- What a reading gives for the definition at a position: the finding of the last occurrence, or
absence if there is none. -/
def lastFinding (parts : List Part) (i : Nat) : Finding :=
  ((parts.filterMap (Part.findingFor? i)).getLast?).getD .absent

variable {ds : List Definition}

/-! ## How a reading goes on -/

/-- A token without a claimant is kept. -/
theorem reading_cons_of_none {t : String} (h : claimant? ds t = none) (rest : List String) :
    reading ds (t :: rest) = .kept t :: reading ds rest := by
  rw [reading, h]

/-- A token with a claimant is the head of an occurrence, and the reading goes on behind it. -/
theorem reading_cons_of_some {t : String} {i : Nat} {c : Claim} (h : claimant? ds t = some (i, c))
    (rest : List String) :
    reading ds (t :: rest) = .taken i t (c.taking rest).1 :: reading ds (c.taking rest).2 := by
  rw [reading, h]
  cases c with
  | flag => rfl
  | inline value => rfl
  | next => cases rest <;> rfl

/-- Induction along the reading of some tokens: behind a kept token, and behind an occurrence with
what it takes. -/
theorem reading_induction (ds : List Definition) {motive : List String → Prop} (nil : motive [])
    (kept : ∀ t rest, claimant? ds t = none → motive rest → motive (t :: rest))
    (taken : ∀ t rest i c, claimant? ds t = some (i, c) → motive (c.taking rest).2 →
      motive (t :: rest)) (ts : List String) : motive ts := by
  induction h : ts.length using Nat.strongRecOn generalizing ts with
  | ind n ih =>
    cases ts with
    | nil => exact nil
    | cons t rest =>
      rw [List.length_cons] at h
      cases hc : claimant? ds t with
      | none => exact kept t rest hc (ih _ (by omega) rest rfl)
      | some found =>
        -- The reading goes on with the end of what follows the head, which is shorter.
        obtain ⟨i, c⟩ := found
        have hle := (c.taking_isSuffix rest).length_le
        exact taken t rest i c hc (ih _ (by omega) _ rfl)

/-! ## Kept tokens -/

/-- A kept token stays in front of what the later parts keep. -/
theorem keptTokens_kept_cons (t : String) (parts : List Part) :
    keptTokens (.kept t :: parts) = t :: keptTokens parts := rfl

/-- An occurrence keeps nothing. -/
theorem keptTokens_taken_cons (i : Nat) (head : String) (k : Taking) (parts : List Part) :
    keptTokens (.taken i head k :: parts) = keptTokens parts := rfl

/-- The parts of a reading are all tokens, in order. -/
theorem tokens_reading (ds : List Definition) (ts : List String) :
    (reading ds ts).flatMap Part.tokens = ts := by
  induction ts using reading_induction ds with
  | nil => rfl
  | kept t rest h ih => rw [reading_cons_of_none h, List.flatMap_cons, ih]; rfl
  | taken t rest i c h ih =>
    rw [reading_cons_of_some h, List.flatMap_cons, ih, Part.tokens, List.cons_append,
      c.extra_append_taking]

/-- What is kept is kept in order. -/
theorem keptTokens_sublist (ds : List Definition) (ts : List String) :
    (keptTokens (reading ds ts)).Sublist ts := by
  induction ts using reading_induction ds with
  | nil => exact List.Sublist.refl _
  | kept t rest h ih => rw [reading_cons_of_none h, keptTokens_kept_cons]; exact ih.cons_cons t
  | taken t rest i c h ih =>
    rw [reading_cons_of_some h, keptTokens_taken_cons]
    exact (ih.trans (c.taking_isSuffix rest).sublist).cons t

/-- No definition of the batch claims a token that is kept. -/
theorem not_claims_of_mem_kept {ts : List String} {t : String}
    (ht : t ∈ keptTokens (reading ds ts)) : ∀ d ∈ ds, d.claims t = false := by
  induction ts using reading_induction ds with
  | nil => simp [reading, keptTokens] at ht
  | kept t' rest h ih =>
    rw [reading_cons_of_none h, keptTokens_kept_cons, List.mem_cons] at ht
    rcases ht with rfl | ht
    · exact (claimant?_eq_none_iff ds t).1 h
    · exact ih ht
  | taken t' rest i c h ih =>
    rw [reading_cons_of_some h, keptTokens_taken_cons] at ht
    exact ih ht

/-- Tokens that no definition claims are kept one by one, and do not affect what follows. -/
theorem reading_append_of_not_claims {front : List String}
    (h : ∀ t ∈ front, ∀ d ∈ ds, d.claims t = false) (rest : List String) :
    reading ds (front ++ rest) = front.map .kept ++ reading ds rest := by
  induction front with
  | nil => rfl
  | cons t front ih =>
    rw [List.forall_mem_cons] at h
    rw [List.cons_append, reading_cons_of_none ((claimant?_eq_none_iff ds t).2 h.1), ih h.2]
    rfl

/-- Tokens that no definition claims are all kept. -/
theorem reading_of_not_claims {ts : List String}
    (h : ∀ t ∈ ts, ∀ d ∈ ds, d.claims t = false) : reading ds ts = ts.map .kept := by
  have := reading_append_of_not_claims h []
  rwa [List.append_nil, reading, List.append_nil] at this

/-- Kept tokens stand in front of what the later parts keep. -/
theorem keptTokens_map_kept_append (ts : List String) (parts : List Part) :
    keptTokens (ts.map .kept ++ parts) = ts ++ keptTokens parts := by
  induction ts with
  | nil => rfl
  | cons t rest ih =>
    rw [List.map_cons, List.cons_append, keptTokens_kept_cons, ih, List.cons_append]

/-! ## Occurrences -/

/-- An occurrence belongs to the claimant of its head, and its head is one of the tokens. -/
theorem claimant?_of_taken_mem {ts : List String} {i : Nat} {head : String} {k : Taking}
    (hmem : .taken i head k ∈ reading ds ts) :
    head ∈ ts ∧ ∃ c, claimant? ds head = some (i, c) := by
  induction ts using reading_induction ds with
  | nil => simp [reading] at hmem
  | kept t rest h ih =>
    rw [reading_cons_of_none h, List.mem_cons] at hmem
    rcases hmem with hmem | hmem
    · contradiction
    · exact ⟨List.mem_cons_of_mem t (ih hmem).1, (ih hmem).2⟩
  | taken t rest j c h ih =>
    rw [reading_cons_of_some h, List.mem_cons] at hmem
    rcases hmem with hmem | hmem
    · obtain ⟨rfl, rfl, rfl⟩ := hmem
      exact ⟨List.mem_cons_self, c, h⟩
    · obtain ⟨hhead, hc⟩ := ih hmem
      exact ⟨List.mem_cons_of_mem t ((c.taking_isSuffix rest).subset hhead), hc⟩

/-- An occurrence belongs to a definition of the batch. -/
theorem owner_lt_of_taken_mem {ts : List String} {owner : Nat} {head : String} {k : Taking}
    (hmem : .taken owner head k ∈ reading ds ts) : owner < ds.length := by
  obtain ⟨-, c, hc⟩ := claimant?_of_taken_mem hmem
  obtain ⟨⟨d, hd, -⟩, -⟩ := (claimant?_eq_some_iff ds head owner c).1 hc
  exact (List.getElem?_eq_some_iff.1 hd).1

/-- Kept tokens do not change what is found behind them. -/
theorem lastFinding_map_kept_append (ts : List String) (parts : List Part) (i : Nat) :
    lastFinding (ts.map .kept ++ parts) i = lastFinding parts i := by
  have hnone : (ts.map Part.kept).filterMap (Part.findingFor? i) = [] := by
    rw [List.filterMap_eq_nil_iff]
    intro part hpart
    obtain ⟨t, -, rfl⟩ := List.mem_map.1 hpart
    rfl
  unfold lastFinding
  rw [List.filterMap_append, hnone, List.nil_append]

/-- An occurrence gives its finding for its own definition. -/
theorem Part.findingFor?_taken_self (i : Nat) (head : String) (k : Taking) :
    (taken i head k).findingFor? i = some k.finding := if_pos rfl

/-- An occurrence gives nothing for any other definition. -/
theorem Part.findingFor?_taken_of_ne {owner i : Nat} (h : owner ≠ i) (head : String) (k : Taking) :
    (taken owner head k).findingFor? i = none := if_neg h

/-- What a part gives for a definition is the finding of an occurrence. -/
theorem Part.exists_of_findingFor?_eq_some {part : Part} {i : Nat} {f : Finding}
    (h : part.findingFor? i = some f) : ∃ k : Taking, k.finding = f := by
  cases part with
  | kept t => contradiction
  | taken owner head k =>
    by_cases hi : owner = i
    · rw [hi, findingFor?_taken_self, Option.some.injEq] at h
      exact ⟨k, h⟩
    · rw [findingFor?_taken_of_ne hi] at h
      contradiction

/-- Nothing is found for a definition that has no occurrence. -/
theorem lastFinding_eq_absent {parts : List Part} {i : Nat}
    (h : ∀ head k, .taken i head k ∉ parts) : lastFinding parts i = .absent := by
  have hnone : parts.filterMap (Part.findingFor? i) = [] := by
    rw [List.filterMap_eq_nil_iff]
    intro part hpart
    cases part with
    | kept t => rfl
    | taken owner head k =>
      have hne : owner ≠ i := by
        rintro rfl
        exact h head k hpart
      exact Part.findingFor?_taken_of_ne hne head k
  rw [lastFinding, hnone]
  rfl

/-- Nothing is found for a definition that claims none of the tokens. -/
theorem lastFinding_reading_eq_absent {ts : List String} {i : Nat} {d : Definition}
    (hd : ds[i]? = some d) (h : ∀ t ∈ ts, d.claims t = false) :
    lastFinding (reading ds ts) i = .absent := by
  -- The head of an occurrence would be a token that the definition claims.
  apply lastFinding_eq_absent
  intro head k hmem
  obtain ⟨hhead, c, hc⟩ := claimant?_of_taken_mem hmem
  obtain ⟨⟨d', hd', hc'⟩, -⟩ := (claimant?_eq_some_iff ds head i c).1 hc
  rw [hd, Option.some.injEq] at hd'
  subst hd'
  have hnone := (d.claims_eq_false_iff head).1 (h head hhead)
  rw [hnone] at hc'
  contradiction

/-- The later of two findings, if it is one. -/
def Finding.orElse (later earlier : Finding) : Finding :=
  if later.present then later else earlier

/-- Absence gives way to what was found before. -/
theorem Finding.absent_orElse (f : Finding) : Finding.absent.orElse f = f := rfl

/-- Every occurrence prevails over what was found before. -/
theorem Taking.finding_orElse (k : Taking) (f : Finding) : k.finding.orElse f = k.finding := by
  rw [Finding.orElse, if_pos k.present_finding]

/-- What is found in parts that follow others is found in the later ones if it is there. -/
theorem lastFinding_append (earlier later : List Part) (i : Nat) :
    lastFinding (earlier ++ later) i =
      (lastFinding later i).orElse (lastFinding earlier i) := by
  unfold lastFinding
  rw [List.filterMap_append, List.getLast?_append]
  cases hlast : (later.filterMap (Part.findingFor? i)).getLast? with
  | none => rfl
  | some f =>
    -- Something that is found for the definition is the finding of an occurrence.
    obtain ⟨part, -, hpart⟩ := List.mem_filterMap.1 (List.mem_of_getLast? hlast)
    obtain ⟨k, rfl⟩ := Part.exists_of_findingFor?_eq_some hpart
    rw [Option.some_or, Option.getD_some, k.finding_orElse]

/-- What is found in a single occurrence. -/
theorem lastFinding_singleton_taken (owner : Nat) (head : String) (k : Taking) (i : Nat) :
    lastFinding [.taken owner head k] i = if owner = i then k.finding else .absent := by
  unfold lastFinding
  by_cases hi : owner = i
  · rw [hi, List.filterMap_cons_some (Part.findingFor?_taken_self i head k), if_pos rfl]
    rfl
  · rw [List.filterMap_cons_none (Part.findingFor?_taken_of_ne hi head k), if_neg hi]
    rfl

/-- What is found in parts that end with an occurrence. -/
theorem lastFinding_concat_taken (parts : List Part) (owner : Nat) (head : String) (k : Taking)
    (i : Nat) :
    lastFinding (parts ++ [.taken owner head k]) i =
      if owner = i then k.finding else lastFinding parts i := by
  rw [lastFinding_append, lastFinding_singleton_taken]
  by_cases h : owner = i
  · rw [if_pos h, if_pos h, k.finding_orElse]
  · rw [if_neg h, if_neg h, Finding.absent_orElse]

end ArgScan
