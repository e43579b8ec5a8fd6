import ArgScan.Proofs.Exhaustion
import ArgScan.Proofs.RoundTrip

/-!
# Joined batches and joined tokens

A batch may be split in two, and so may a list of tokens. This module says what the parts have to
do with the whole.

Scanning for two batches at once is scanning for the first, and then for the second in what the
first has left, as long as no option of the second takes the next token for its value
(`scan_append_batch`). Then every occurrence of the second batch is a single token. The first
batch's reading does not see it, so it may as well be taken later: the joint reading is that of the
first batch with the kept tokens reread for the second, one by one (`reading_append_batch`). The
condition is needed, since the token after an option of the second batch has another neighbour once
the first batch has taken its own.

Scanning two lists of tokens joined is scanning one and then the other, with the later finding
counting (`scan_append_tokens`). Only one thing can cross the cut: the first list may end with an
option whose value would be the next token. It is dangling there (`pending?`), and in the joint list
it takes the first token of the second list.
-/

namespace ArgScan

/-! ## Definitions that take one token -/

/-- No occurrence of the definition takes a second token: if it is an option, its value is behind
the name or behind an equals sign, and never the next token. -/
def Definition.TakesOneToken (d : Definition) : Prop :=
  d.kind = .option →
    (d.facets.equals = true ∨ d.facets.attached = true) ∧ d.facets.nextToken = false

instance (d : Definition) : Decidable d.TakesOneToken :=
  inferInstanceAs (Decidable (_ → _))

/-- A definition that takes one token does not take the next one. -/
theorem Definition.claim?_ne_next {d : Definition} (hd : d.TakesOneToken) (t : String) :
    d.claim? t ≠ some .next := by
  intro h
  obtain ⟨_, _, -, hreads⟩ := claim?_eq_some_iff_firstFits.1 h
  cases hreads with
  | next hkind hnext =>
    obtain ⟨hset, hn⟩ := hd hkind
    rcases hnext with hnext | ⟨ha, he, -⟩
    · rw [hn] at hnext
      contradiction
    · rw [ha, he] at hset
      exact absurd hset (by decide)

/-- A claim that does not take the next token does not depend on what follows. -/
theorem Claim.taking_of_ne_next {c : Claim} (h : c ≠ .next) (rest : List String) :
    c.taking rest = ((c.taking []).1, rest) := by
  cases c with
  | flag => rfl
  | inline value => rfl
  | next => contradiction

/-! ## Joined batches -/

/-- The claimant in two batches joined is that in the first, or else that in the second, whose
positions come behind those of the first. -/
theorem claimant?_append (ds₁ ds₂ : List Definition) (t : String) :
    claimant? (ds₁ ++ ds₂) t =
      (claimant? ds₁ t).or ((claimant? ds₂ t).map fun (i, c) => (ds₁.length + i, c)) := by
  induction ds₁ with
  | nil => simp [claimant?]
  | cons d ds₁ ih =>
    rw [List.cons_append]
    cases h : d.claim? t with
    | some c =>
      rw [claimant?_cons_of_some _ h, claimant?_cons_of_some _ h]
      rfl
    | none =>
      rw [claimant?_cons_of_none _ h, claimant?_cons_of_none _ h, ih, List.length_cons,
        Option.map_or, Option.map_map]
      -- Each position is one more behind a further definition.
      congr 2
      funext x
      exact Prod.ext (by simp; omega) rfl

/-- Reads a kept token for a second batch, whose positions begin at an offset. -/
def Part.reread (ds : List Definition) (offset : Nat) : Part → Part
  | kept t =>
    match claimant? ds t with
    | none => kept t
    | some (i, c) => taken (offset + i) t (c.taking []).1
  | taken owner head k => taken owner head k

/-- A kept token that the second batch does not claim stays. -/
theorem Part.reread_kept_of_none {ds : List Definition} {t : String} (h : claimant? ds t = none)
    (offset : Nat) : (kept t).reread ds offset = kept t := by
  rw [reread, h]

/-- A kept token that the second batch claims is an occurrence of its claimant. -/
theorem Part.reread_kept_of_some {ds : List Definition} {t : String} {i : Nat} {c : Claim}
    (h : claimant? ds t = some (i, c)) (offset : Nat) :
    (kept t).reread ds offset = taken (offset + i) t (c.taking []).1 := by
  rw [reread, h]

/-- Occurrences of the first batch stay. -/
theorem Part.reread_taken (ds : List Definition) (offset owner : Nat) (head : String) (k : Taking) :
    (taken owner head k).reread ds offset = taken owner head k := rfl

variable {ds₂ : List Definition}

/-- A claimant in a batch of definitions that take one token does not take the next one. -/
theorem claim_ne_next (h : ∀ d ∈ ds₂, d.TakesOneToken) {t : String} {i : Nat} {c : Claim}
    (hc : claimant? ds₂ t = some (i, c)) : c ≠ .next := by
  obtain ⟨⟨d, hd, hclaim⟩, -⟩ := (claimant?_eq_some_iff ds₂ t i c).1 hc
  rintro rfl
  exact Definition.claim?_ne_next (h d (List.mem_of_getElem? hd)) t hclaim

/-- The reading for two batches is that for the first, with the kept tokens reread for the second.
-/
theorem reading_append_batch (ds₁ : List Definition) (h : ∀ d ∈ ds₂, d.TakesOneToken)
    (ts : List String) :
    reading (ds₁ ++ ds₂) ts = (reading ds₁ ts).map (Part.reread ds₂ ds₁.length) := by
  induction ts using reading_induction ds₁ with
  | nil => rfl
  | kept t rest hnone ih =>
    have hjoint := claimant?_append ds₁ ds₂ t
    rw [hnone, Option.none_or] at hjoint
    rw [reading_cons_of_none hnone, List.map_cons, ← ih]
    cases hc : claimant? ds₂ t with
    | none =>
      rw [hc, Option.map_none] at hjoint
      rw [reading_cons_of_none hjoint, Part.reread_kept_of_none hc]
    | some found =>
      -- The second batch takes the token alone, and the reading goes on behind it as before.
      obtain ⟨i, c⟩ := found
      rw [hc, Option.map_some] at hjoint
      rw [reading_cons_of_some hjoint, Claim.taking_of_ne_next (claim_ne_next h hc),
        Part.reread_kept_of_some hc]
  | taken t rest i c hsome ih =>
    have hjoint := claimant?_append ds₁ ds₂ t
    rw [hsome, Option.some_or] at hjoint
    rw [reading_cons_of_some hjoint, reading_cons_of_some hsome, List.map_cons, ← ih,
      Part.reread_taken]

/-- The reading for a batch of definitions that take one token reads the tokens one by one. -/
theorem reading_eq_map_reread (h : ∀ d ∈ ds₂, d.TakesOneToken) (ts : List String) :
    reading ds₂ ts = ts.map fun t => (Part.kept t).reread ds₂ 0 := by
  have hempty : reading [] ts = ts.map .kept := reading_of_not_claims (by simp)
  calc reading ds₂ ts
      = (reading [] ts).map (Part.reread ds₂ 0) := reading_append_batch [] h ts
    _ = (ts.map .kept).map (Part.reread ds₂ 0) := by rw [hempty]
    _ = ts.map fun t => (Part.kept t).reread ds₂ 0 := List.map_map

/-- Rereading keeps what a reading of the kept tokens keeps. -/
theorem keptTokens_map_reread (ds : List Definition) (offset : Nat) (parts : List Part) :
    keptTokens (parts.map (Part.reread ds offset)) =
      keptTokens ((keptTokens parts).map fun t => (Part.kept t).reread ds 0) := by
  induction parts with
  | nil => rfl
  | cons part parts ih =>
    cases part with
    | taken owner head k => exact ih
    | kept t =>
      rw [keptTokens_kept_cons, List.map_cons, List.map_cons]
      cases hc : claimant? ds t with
      | none =>
        rw [Part.reread_kept_of_none hc, Part.reread_kept_of_none hc, keptTokens_kept_cons,
          keptTokens_kept_cons, ih]
      | some found =>
        rw [Part.reread_kept_of_some hc, Part.reread_kept_of_some hc, keptTokens_taken_cons,
          keptTokens_taken_cons, ih]

/-- Rereading changes nothing for the definitions before the offset. -/
theorem lastFinding_map_reread_of_lt (ds : List Definition) {offset i : Nat} (hi : i < offset)
    (parts : List Part) :
    lastFinding (parts.map (Part.reread ds offset)) i = lastFinding parts i := by
  have hpart : Part.findingFor? i ∘ Part.reread ds offset = Part.findingFor? i := by
    funext part
    cases part with
    | taken owner head k => rfl
    | kept t =>
      rw [Function.comp_apply]
      cases hc : claimant? ds t with
      | none => rw [Part.reread_kept_of_none hc]
      | some found =>
        rw [Part.reread_kept_of_some hc, Part.findingFor?_taken_of_ne (by omega)]
        rfl
  unfold lastFinding
  rw [List.filterMap_map, hpart]

/-- For the definitions behind the offset, rereading finds what a reading of the kept tokens finds.
-/
theorem lastFinding_map_reread_add (ds : List Definition) {offset : Nat} {parts : List Part}
    (h : ∀ owner head k, .taken owner head k ∈ parts → owner < offset) (j : Nat) :
    lastFinding (parts.map (Part.reread ds offset)) (offset + j) =
      lastFinding ((keptTokens parts).map fun t => (Part.kept t).reread ds 0) j := by
  unfold lastFinding
  congr 2
  induction parts with
  | nil => rfl
  | cons part parts ih =>
    have ih := ih fun owner head k hmem => h owner head k (List.mem_cons_of_mem part hmem)
    cases part with
    | taken owner head k =>
      have hne : owner ≠ offset + j := by
        have := h owner head k List.mem_cons_self
        omega
      rw [List.map_cons, Part.reread_taken,
        List.filterMap_cons_none (Part.findingFor?_taken_of_ne hne head k), ih,
        keptTokens_taken_cons]
    | kept t =>
      rw [keptTokens_kept_cons, List.map_cons, List.map_cons]
      cases hc : claimant? ds t with
      | none =>
        rw [Part.reread_kept_of_none hc, Part.reread_kept_of_none hc, List.filterMap_cons_none rfl,
          List.filterMap_cons_none rfl, ih]
      | some found =>
        -- The token is an occurrence of the definition in both readings or in neither.
        rw [Part.reread_kept_of_some hc, Part.reread_kept_of_some hc]
        by_cases hij : found.1 = j
        · rw [hij, Nat.zero_add, List.filterMap_cons_some (Part.findingFor?_taken_self _ t _),
            List.filterMap_cons_some (Part.findingFor?_taken_self _ t _), ih]
        · rw [List.filterMap_cons_none (Part.findingFor?_taken_of_ne (by omega) t _),
            List.filterMap_cons_none (Part.findingFor?_taken_of_ne (by omega) t _), ih]

/-- Two batches joined keep what the second keeps of what the first has kept. -/
theorem keptTokens_reading_append_batch (ds₁ : List Definition) (h : ∀ d ∈ ds₂, d.TakesOneToken)
    (ts : List String) :
    keptTokens (reading (ds₁ ++ ds₂) ts) =
      keptTokens (reading ds₂ (keptTokens (reading ds₁ ts))) := by
  rw [reading_append_batch ds₁ h, reading_eq_map_reread h, keptTokens_map_reread]

/-- Two batches joined find what the first finds, and what the second finds in what the first has
kept. -/
theorem lastFinding_reading_append_batch (ds₁ : List Definition)
    (h : ∀ d ∈ ds₂, d.TakesOneToken) (ts : List String) :
    (List.range (ds₁ ++ ds₂).length).map (lastFinding (reading (ds₁ ++ ds₂) ts)) =
      (List.range ds₁.length).map (lastFinding (reading ds₁ ts)) ++
        (List.range ds₂.length).map
          (lastFinding (reading ds₂ (keptTokens (reading ds₁ ts)))) := by
  rw [List.length_append, List.range_add, List.map_append, List.map_map, reading_append_batch ds₁ h,
    reading_eq_map_reread h]
  congr 1
  · apply List.map_congr_left
    intro i hi
    exact lastFinding_map_reread_of_lt ds₂ (List.mem_range.1 hi) _
  · apply List.map_congr_left
    intro j _
    exact lastFinding_map_reread_add ds₂ (fun _ _ _ => owner_lt_of_taken_mem) j

/-- A scan for two batches joined, of which the second holds only definitions that take one token,
gives what a scan for the first gives and then a scan for the second in the tokens left. So a
buffer answers the same whether the second batch is part of the first call or a call of its own. -/
theorem scan_append_batch (ds₁ ds₂ : List Definition) (ts : List String)
    (h : ∀ d ∈ ds₂, d.TakesOneToken) :
    (∃ s s₁ s₂, scan (ds₁ ++ ds₂) ts = .ok s ∧ scan ds₁ ts = .ok s₁ ∧
        scan ds₂ s₁.tokens = .ok s₂ ∧ s.findings = s₁.findings ++ s₂.findings ∧
        s.tokens = s₂.tokens) ∧
      (Buffer.mk ts).take (ds₁ ++ ds₂) = (do
        let (findings₁, left₁) ← (Buffer.mk ts).take ds₁
        let (findings₂, left₂) ← left₁.take ds₂
        return (findings₁ ++ findings₂, left₂)) := by
  have htokens := keptTokens_reading_append_batch ds₁ h ts
  have hfindings := lastFinding_reading_append_batch ds₁ h ts
  constructor
  · obtain ⟨s, hs, hst, hsf⟩ := exists_scan_eq_ok (ds₁ ++ ds₂) ts
    obtain ⟨s₁, hs₁, hst₁, hsf₁⟩ := exists_scan_eq_ok ds₁ ts
    obtain ⟨s₂, hs₂, hst₂, hsf₂⟩ := exists_scan_eq_ok ds₂ s₁.tokens
    rw [hst₁] at hst₂ hsf₂
    refine ⟨s, s₁, s₂, hs, hs₁, hs₂, ?_, ?_⟩
    · rw [hsf, hsf₁, hsf₂, hfindings]
    · rw [hst, hst₂, htokens]
  · rw [Buffer.take_eq, Buffer.take_eq, htokens, hfindings]
    simp only [bind, Except.bind, Buffer.take_eq]
    rfl

/-- A batch of an option whose value is behind an equals sign and of a flag, which go by names that
`mixedBatch` has as well. -/
def namesakeBatch : List Definition :=
  [{ nameOption with facets := { equals := true } },
   { kind := .flag, name := "verbose", aliases := ["v"], facets := .none
     name_ne := by decide, alias_ne := by decide }]

/-- The first batch takes the flag that both claim, and as a value a token that the second claims;
what it leaves is enough for the second. -/
theorem scan_append_batch_namesakes :
    (∀ d ∈ namesakeBatch, d.TakesOneToken) ∧
      ∃ s s₁ s₂, scan (mixedBatch ++ namesakeBatch)
          ["--name=1", "--name", "--name=2", "-v", "file", "--name"] = .ok s ∧
        scan mixedBatch ["--name=1", "--name", "--name=2", "-v", "file", "--name"] = .ok s₁ ∧
        s₁.tokens = ["--name=1", "file"] ∧
        scan namesakeBatch ["--name=1", "file"] = .ok s₂ ∧
        s.findings =
          [.absent, .found none, .flag, .found (some "1"), .absent] ∧
        s.tokens = ["file"] := by
  have hone : ∀ d ∈ namesakeBatch, d.TakesOneToken := by decide
  obtain ⟨⟨s, s₁, s₂, hs, hs₁, hs₂, hfindings, htokens⟩, -⟩ :=
    scan_append_batch mixedBatch namesakeBatch
      ["--name=1", "--name", "--name=2", "-v", "file", "--name"] hone
  obtain rfl : _ = s₁ := Except.ok.inj hs₁
  obtain rfl : _ = s₂ := Except.ok.inj hs₂
  exact ⟨hone, s, _, _, hs, hs₁, rfl, hs₂, hfindings, htokens⟩

/-! ## Joined tokens -/

/-- The definition, by its position, whose occurrence ends a reading without the token that would be
its value, if the reading ends so. -/
def pending? (parts : List Part) : Option Nat :=
  match parts.getLast? with
  | some (.taken owner _ .dangling) => some owner
  | _ => none

/-- Whether a reading ends with a pending option is a matter of its last part. -/
theorem pending?_cons_cons (part part' : Part) (parts : List Part) :
    pending? (part :: part' :: parts) = pending? (part' :: parts) := by
  rw [pending?, pending?, List.getLast?_cons_cons]

/-- A kept token in front does not matter for a pending option. -/
theorem pending?_kept_cons (t : String) (parts : List Part) :
    pending? (.kept t :: parts) = pending? parts := by
  cases parts with
  | nil => rfl
  | cons part parts => exact pending?_cons_cons _ part parts

/-- Neither does an occurrence that is not dangling. -/
theorem pending?_taken_cons {k : Taking} (hk : k ≠ .dangling) (owner : Nat) (head : String)
    (parts : List Part) : pending? (.taken owner head k :: parts) = pending? parts := by
  cases parts with
  | nil =>
    cases k with
    | alone value => rfl
    | pair value => rfl
    | dangling => contradiction
  | cons part parts => exact pending?_cons_cons _ part parts

/-- Only an option that takes the next token can be dangling, and only at the end. -/
theorem Claim.eq_next_of_taking_dangling {c : Claim} {rest : List String}
    (h : (c.taking rest).1 = .dangling) : c = .next ∧ rest = [] := by
  cases c with
  | flag => contradiction
  | inline value => contradiction
  | next =>
    cases rest with
    | nil => exact ⟨rfl, rfl⟩
    | cons value rest => contradiction

/-- An occurrence that is not dangling does not see the tokens behind those that follow it. -/
theorem Claim.taking_append {c : Claim} {rest : List String}
    (h : (c.taking rest).1 ≠ .dangling) (later : List String) :
    c.taking (rest ++ later) = ((c.taking rest).1, (c.taking rest).2 ++ later) := by
  cases c with
  | flag => rfl
  | inline value => rfl
  | next =>
    cases rest with
    | nil => contradiction
    | cons value rest => rfl

section

variable {ds : List Definition}

/-- If no option is pending, the reading of tokens behind others starts afresh. -/
theorem reading_append_of_pending_none {ts : List String} (h : pending? (reading ds ts) = none)
    (later : List String) : reading ds (ts ++ later) = reading ds ts ++ reading ds later := by
  induction ts using reading_induction ds with
  | nil => rfl
  | kept t rest hc ih =>
    rw [reading_cons_of_none hc, pending?_kept_cons] at h
    rw [List.cons_append, reading_cons_of_none hc, reading_cons_of_none hc, ih h, List.cons_append]
  | taken t rest i c hc ih =>
    by_cases hk : (c.taking rest).1 = .dangling
    · -- The occurrence would be pending.
      obtain ⟨rfl, rfl⟩ := Claim.eq_next_of_taking_dangling hk
      rw [reading_cons_of_some hc] at h
      contradiction
    · rw [reading_cons_of_some hc, pending?_taken_cons hk] at h
      rw [List.cons_append, reading_cons_of_some hc, reading_cons_of_some hc,
        Claim.taking_append hk, ih h, List.cons_append]

/-- A pending option takes the first of the tokens that follow, and the reading of the others starts
afresh. -/
theorem reading_append_of_pending_some {ts : List String} {k : Nat}
    (h : pending? (reading ds ts) = some k) :
    ∃ parts head, reading ds ts = parts ++ [.taken k head .dangling] ∧
      ∀ value later, reading ds (ts ++ value :: later) =
        (parts ++ [.taken k head (.pair value)]) ++ reading ds later := by
  induction ts using reading_induction ds with
  | nil => contradiction
  | kept t rest hc ih =>
    rw [reading_cons_of_none hc, pending?_kept_cons] at h
    obtain ⟨parts, head, hread, hjoint⟩ := ih h
    refine ⟨.kept t :: parts, head, ?_, ?_⟩
    · rw [reading_cons_of_none hc, hread, List.cons_append]
    · intro value later
      rw [List.cons_append, reading_cons_of_none hc, hjoint, List.cons_append, List.cons_append]
  | taken t rest i c hc ih =>
    by_cases hk : (c.taking rest).1 = .dangling
    · obtain ⟨rfl, rfl⟩ := Claim.eq_next_of_taking_dangling hk
      rw [reading_cons_of_some hc] at h
      obtain rfl : i = k := Option.some.inj h
      refine ⟨[], t, reading_cons_of_some hc [], ?_⟩
      intro value later
      exact reading_cons_of_some hc (value :: later)
    · rw [reading_cons_of_some hc, pending?_taken_cons hk] at h
      obtain ⟨parts, head, hread, hjoint⟩ := ih h
      refine ⟨.taken i t (c.taking rest).1 :: parts, head, ?_, ?_⟩
      · rw [reading_cons_of_some hc, hread, List.cons_append]
      · intro value later
        rw [List.cons_append, reading_cons_of_some hc, Claim.taking_append hk, hjoint,
          List.cons_append, List.cons_append]

end

/-- Parts that follow others keep their tokens behind theirs. -/
theorem keptTokens_append (earlier later : List Part) :
    keptTokens (earlier ++ later) = keptTokens earlier ++ keptTokens later :=
  List.filterMap_append

/-- For each definition the later finding counts if there is one. -/
theorem zipWith_orElse_lastFinding (n : Nat) (earlier later : List Part) :
    List.zipWith Finding.orElse ((List.range n).map (lastFinding later))
        ((List.range n).map (lastFinding earlier)) =
      (List.range n).map (lastFinding (earlier ++ later)) := by
  rw [List.zipWith_map, List.zipWith_self]
  apply List.map_congr_left
  intro i _
  exact (lastFinding_append earlier later i).symm

/-- A dangling occurrence at the end that gets a value after all changes what is found for its
definition, and nothing else. -/
theorem set_lastFinding_concat_dangling (n : Nat) (parts : List Part) (k : Nat)
    (head value : String) :
    ((List.range n).map (lastFinding (parts ++ [.taken k head .dangling]))).set k
        (.found (some value)) =
      (List.range n).map (lastFinding (parts ++ [.taken k head (.pair value)])) := by
  apply List.ext_getElem
  · simp
  intro i hi hi'
  rw [List.getElem_set, List.getElem_map, List.getElem_map, List.getElem_range,
    lastFinding_concat_taken, lastFinding_concat_taken]
  by_cases h : k = i
  · rw [if_pos h, if_pos h]
    rfl
  · rw [if_neg h, if_neg h, if_neg h]

/-- A scan of two lists of tokens joined leaves what the scans of the two leave, and finds for each
definition what the second finds or else what the first finds. Only where the first list ends with
an option without its value, that option takes the first token of the second list for its value, and
the second scan is that of the others. -/
theorem scan_append_tokens (ds : List Definition) (ts later : List String) :
    ∃ s joint, scan ds ts = .ok s ∧ scan ds (ts ++ later) = .ok joint ∧
      (pending? (reading ds ts) = none → ∃ s', scan ds later = .ok s' ∧
        joint.tokens = s.tokens ++ s'.tokens ∧
        joint.findings = List.zipWith Finding.orElse s'.findings s.findings) ∧
      (∀ k value rest, pending? (reading ds ts) = some k → later = value :: rest →
        s.findings[k]? = some (.found none) ∧ ∃ s', scan ds rest = .ok s' ∧
          joint.tokens = s.tokens ++ s'.tokens ∧
          joint.findings = List.zipWith Finding.orElse s'.findings
            (s.findings.set k (.found (some value)))) := by
  obtain ⟨s, hs, htokens, hfindings⟩ := exists_scan_eq_ok ds ts
  obtain ⟨joint, hjoint, htokens', hfindings'⟩ := exists_scan_eq_ok ds (ts ++ later)
  refine ⟨s, joint, hs, hjoint, ?_, ?_⟩
  · intro hpending
    obtain ⟨s', hs', ht, hf⟩ := exists_scan_eq_ok ds later
    rw [reading_append_of_pending_none hpending] at htokens' hfindings'
    refine ⟨s', hs', ?_, ?_⟩
    · rw [htokens', keptTokens_append, htokens, ht]
    · rw [hfindings', hf, hfindings, zipWith_orElse_lastFinding]
  · rintro k value rest hpending rfl
    obtain ⟨parts, head, hread, hgoes⟩ := reading_append_of_pending_some hpending
    have hk : k < ds.length := by
      have hmem : .taken k head .dangling ∈ reading ds ts := by simp [hread]
      exact owner_lt_of_taken_mem hmem
    obtain ⟨s', hs', ht, hf⟩ := exists_scan_eq_ok ds rest
    rw [hgoes] at htokens' hfindings'
    rw [hread] at htokens hfindings
    refine ⟨?_, s', hs', ?_, ?_⟩
    · rw [hfindings, List.getElem?_map, List.getElem?_range hk, Option.map_some,
        lastFinding_concat_taken, if_pos rfl]
      rfl
    · -- The option keeps no token, with its value or without it.
      have hkept : keptTokens (parts ++ [.taken k head (.pair value)]) =
          keptTokens (parts ++ [.taken k head .dangling]) := by
        rw [keptTokens_append, keptTokens_append]
        rfl
      rw [htokens', keptTokens_append, hkept, htokens, ht]
    · rw [hfindings', hf, hfindings, set_lastFinding_concat_dangling, zipWith_orElse_lastFinding]

/-- An option at the end of the first list takes the first token of the second, though that looks
like a flag; behind the value the second list is scanned as by itself. -/
theorem scan_append_tokens_before_value :
    pending? (reading mixedBatch ["file", "-v", "--name"]) = some 1 ∧
      ∃ s joint s', scan mixedBatch ["file", "-v", "--name"] = .ok s ∧
        s.findings = [.absent, .found none, .flag] ∧
        scan mixedBatch ["file", "-v", "--name", "-v", "-n5", "end"] = .ok joint ∧
        scan mixedBatch ["-n5", "end"] = .ok s' ∧
        joint.tokens = ["file", "end"] ∧
        joint.findings = [.found (some "5"), .found (some "-v"), .flag] := by
  have hpending : pending? (reading mixedBatch ["file", "-v", "--name"]) = some 1 := by decide
  obtain ⟨s, joint, hs, hjoint, -, hcross⟩ :=
    scan_append_tokens mixedBatch ["file", "-v", "--name"] ["-v", "-n5", "end"]
  obtain ⟨-, s', hs', htokens, hfindings⟩ := hcross 1 "-v" ["-n5", "end"] hpending rfl
  obtain rfl : _ = s := Except.ok.inj hs
  obtain rfl : _ = s' := Except.ok.inj hs'
  exact ⟨hpending, _, joint, _, hs, rfl, hjoint, hs', htokens, hfindings⟩

end ArgScan
