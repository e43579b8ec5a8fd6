import ArgScan.Buffer
import ArgScan.Proofs.Runs
import ArgScan.Proofs.Simulation

/-!
# Exhausted definitions

A buffer serves requests of several kinds, in any order and any number. This module shows that a
definition is done with after the first call that it takes part in: later calls find nothing more
for it, and a call for such definitions alone changes nothing (`serveAll_finds_only_new`).

The invariant is that no definition that took part claims a remaining token (`IsExhaustedFor`). A
call establishes it for its own batch, since what a scan keeps is claimed by no definition of the
batch. Any later request keeps it, since the remaining tokens only become fewer, and a definition
claims a token or not whatever stands around it.
-/

namespace ArgScan

/-- What may be asked of a buffer. -/
inductive Request where
  /-- To scan for a batch of definitions. -/
  | take (definitions : List Definition)
  /-- To give the remaining tokens. -/
  | remaining
  /-- To go through the remaining tokens. -/
  | items
  /-- To give their number. -/
  | size
  /-- To refuse remaining tokens. -/
  | expectEmpty

/-- What a buffer answers. -/
inductive Answer where
  /-- What was found for each definition of a batch. -/
  | findings (findings : List Finding)
  /-- Tokens. -/
  | tokens (tokens : List String)
  /-- A number of tokens. -/
  | size (n : Nat)
  /-- Whether remaining tokens were refused. -/
  | checked (outcome : Except Unrecognized Unit)

/-- The definitions that take part in a request. -/
def Request.definitions : Request → List Definition
  | take definitions => definitions
  | _ => []

/-- A request that was served. -/
structure Exchange where
  /-- The request. -/
  request : Request
  /-- The answer to it. -/
  answer : Answer
  /-- The buffer before. -/
  before : Buffer
  /-- The buffer after. -/
  after : Buffer

namespace Buffer

/-- Serves one request. -/
def serve (b : Buffer) : Request → Except PositionFault (Answer × Buffer)
  | .take definitions =>
    (b.take definitions).map fun (findings, after) => (.findings findings, after)
  | .remaining => .ok (.tokens b.remaining, b)
  | .items => .ok (.tokens b.remaining, b)
  | .size => .ok (.size b.size, b)
  | .expectEmpty => .ok (.checked b.expectEmpty, b)

/-- Serves requests one after another. -/
def serveAll (b : Buffer) : List Request → Except PositionFault (List Exchange)
  | [] => .ok []
  | request :: later => do
    let (answer, after) ← b.serve request
    let exchanges ← after.serveAll later
    return { request, answer, before := b, after } :: exchanges

/-- No remaining token is claimed by any of the definitions. -/
def IsExhaustedFor (b : Buffer) (definitions : List Definition) : Prop :=
  ∀ d ∈ definitions, ∀ t ∈ b.remaining, d.claims t = false

end Buffer

/-- What an exchange gives when the definitions seen have taken part in earlier ones: a call for a
batch finds nothing for any of them, and a call for no others changes nothing. -/
def Exchange.FindsOnlyNew (x : Exchange) (seen : List Definition) : Prop :=
  ∀ ds, x.request = .take ds → ∃ findings, x.answer = .findings findings ∧
    findings.length = ds.length ∧
    (∀ (i : Nat) d, ds[i]? = some d → d ∈ seen → findings[i]? = some .absent) ∧
    ((∀ d ∈ ds, d ∈ seen) → (∀ f ∈ findings, f = .absent) ∧ x.after = x.before)

namespace Buffer

/-! ## One request -/

/-- A call gives what the reading of the remaining tokens gives. -/
theorem take_eq (b : Buffer) (ds : List Definition) :
    b.take ds = .ok ((List.range ds.length).map (lastFinding (reading ds b.remaining)),
      ⟨keptTokens (reading ds b.remaining)⟩) := by
  unfold take
  rw [scan_eq, Except.map, findings_after_start, tokens_after_start]

/-- A buffer stays exhausted when tokens go. -/
theorem IsExhaustedFor.of_sublist {b b' : Buffer} {seen : List Definition}
    (h : b.IsExhaustedFor seen) (hsub : b'.remaining.Sublist b.remaining) :
    b'.IsExhaustedFor seen :=
  fun d hd t ht => h d hd t (hsub.subset ht)

/-- A request for other than a scan leaves the buffer as it is. -/
theorem serve_of_no_take (b : Buffer) {request : Request} (h : ∀ ds, request ≠ .take ds) :
    ∃ answer, b.serve request = .ok (answer, b) := by
  cases request with
  | take ds => exact absurd rfl (h ds)
  | remaining => exact ⟨_, rfl⟩
  | items => exact ⟨_, rfl⟩
  | size => exact ⟨_, rfl⟩
  | expectEmpty => exact ⟨_, rfl⟩

/-- Nothing is found for a definition of the batch for which the buffer is exhausted. -/
theorem lastFinding_of_isExhaustedFor {b : Buffer} {seen ds : List Definition}
    (h : b.IsExhaustedFor seen) {i : Nat} {d : Definition} (hd : ds[i]? = some d)
    (hseen : d ∈ seen) : lastFinding (reading ds b.remaining) i = .absent :=
  lastFinding_reading_eq_absent hd (h d hseen)

/-- A batch of definitions for which the buffer is exhausted takes nothing. -/
theorem keptTokens_of_isExhaustedFor {b : Buffer} {seen ds : List Definition}
    (h : b.IsExhaustedFor seen) (hall : ∀ d ∈ ds, d ∈ seen) :
    keptTokens (reading ds b.remaining) = b.remaining := by
  have hread : reading ds b.remaining = b.remaining.map .kept :=
    reading_of_not_claims fun t ht d hd => h d (hall d hd) t ht
  calc keptTokens (reading ds b.remaining)
      = keptTokens (b.remaining.map .kept ++ []) := by rw [hread, List.append_nil]
    _ = b.remaining ++ keptTokens [] := keptTokens_map_kept_append b.remaining []
    _ = b.remaining := List.append_nil _

/-- What a batch leaves is exhausted for the batch, and for the definitions before it as well. -/
theorem isExhaustedFor_keptTokens {b : Buffer} {seen : List Definition} (h : b.IsExhaustedFor seen)
    (ds : List Definition) :
    (⟨keptTokens (reading ds b.remaining)⟩ : Buffer).IsExhaustedFor (seen ++ ds) := by
  intro d hd t ht
  rcases List.mem_append.1 hd with hseen | hnew
  · exact h.of_sublist (keptTokens_sublist ds b.remaining) d hseen t ht
  · exact not_claims_of_mem_kept ht d hnew

/-- The call for a batch finds only what is new, and exhausts the buffer for the batch too. -/
theorem serve_take {b : Buffer} {seen : List Definition} (h : b.IsExhaustedFor seen)
    (ds : List Definition) :
    ∃ answer after, b.serve (.take ds) = .ok (answer, after) ∧
      after.remaining.Sublist b.remaining ∧ after.IsExhaustedFor (seen ++ ds) ∧
      Exchange.FindsOnlyNew ⟨.take ds, answer, b, after⟩ seen := by
  have hserve : b.serve (.take ds) =
      .ok (.findings ((List.range ds.length).map (lastFinding (reading ds b.remaining))),
        ⟨keptTokens (reading ds b.remaining)⟩) := by
    rw [serve, take_eq]
    rfl
  refine ⟨_, _, hserve, keptTokens_sublist ds b.remaining, isExhaustedFor_keptTokens h ds, ?_⟩
  intro ds' hds'
  obtain rfl : ds = ds' := by simpa using hds'
  refine ⟨_, rfl, by rw [List.length_map, List.length_range], ?_, ?_⟩
  · -- A definition seen before, wherever it stands in the batch.
    intro i d hd hseen
    obtain ⟨hi, -⟩ := List.getElem?_eq_some_iff.1 hd
    rw [List.getElem?_map, List.getElem?_range hi, Option.map_some,
      lastFinding_of_isExhaustedFor h hd hseen]
  · -- A batch of such definitions alone.
    intro hall
    refine ⟨?_, congrArg Buffer.mk (keptTokens_of_isExhaustedFor h hall)⟩
    intro f hf
    obtain ⟨i, hi, rfl⟩ := List.mem_map.1 hf
    have hd := List.getElem?_eq_getElem (List.mem_range.1 hi)
    exact lastFinding_of_isExhaustedFor h hd (hall _ (List.mem_of_getElem? hd))

/-- Every request is served; it takes tokens at most, keeps the buffer exhausted for the definitions
seen, and finds only what is new. -/
theorem serve_spec {b : Buffer} {seen : List Definition} (h : b.IsExhaustedFor seen)
    (request : Request) :
    ∃ answer after, b.serve request = .ok (answer, after) ∧
      after.remaining.Sublist b.remaining ∧
      after.IsExhaustedFor (seen ++ request.definitions) ∧
      Exchange.FindsOnlyNew ⟨request, answer, b, after⟩ seen := by
  by_cases htake : ∃ ds, request = .take ds
  · obtain ⟨ds, rfl⟩ := htake
    exact serve_take h ds
  · have hother : ∀ ds, request ≠ .take ds := fun ds hds => htake ⟨ds, hds⟩
    obtain ⟨answer, hserve⟩ := b.serve_of_no_take hother
    have hnone : request.definitions = [] := by
      cases request with
      | take ds => exact absurd rfl (hother ds)
      | _ => rfl
    refine ⟨answer, b, hserve, List.Sublist.refl _, ?_, fun ds hds => absurd hds (hother ds)⟩
    rwa [hnone, List.append_nil]

/-! ## A whole run -/

/-- The exchanges of a run on a buffer that is exhausted for the definitions seen. -/
theorem serveAll_of_isExhaustedFor (requests : List Request) {b : Buffer} {seen : List Definition}
    (h : b.IsExhaustedFor seen) :
    ∃ exchanges, b.serveAll requests = .ok exchanges ∧
      exchanges.map Exchange.request = requests ∧
      ∀ earlier x later, exchanges = earlier ++ x :: later →
        x.after.remaining.Sublist b.remaining ∧
          x.FindsOnlyNew (seen ++ earlier.flatMap fun y => y.request.definitions) := by
  induction requests generalizing b seen with
  | nil => exact ⟨[], rfl, rfl, forall_split_nil⟩
  | cons request requests ih =>
    obtain ⟨answer, after, hserve, hsub, hexhausted, hnew⟩ := serve_spec h request
    obtain ⟨exchanges, hrun, hrequests, hrest⟩ := ih hexhausted
    refine ⟨⟨request, answer, b, after⟩ :: exchanges, ?_, ?_, ?_⟩
    · unfold serveAll
      rw [hserve]
      simp only [bind, Except.bind, hrun]
      rfl
    · rw [List.map_cons, hrequests]
    · -- The definitions seen by a later exchange include those of the first request.
      refine forall_split_cons ?_ fun earlier x later hsplit => ?_
      · rw [List.flatMap_nil, List.append_nil]
        exact ⟨hsub, hnew⟩
      · obtain ⟨hsub', hnew'⟩ := hrest earlier x later hsplit
        rw [List.flatMap_cons, ← List.append_assoc]
        exact ⟨hsub'.trans hsub, hnew'⟩

/-- Every run of requests to a buffer is served. At any point of it the remaining tokens are some of
the first ones, in order, and a call finds nothing for definitions that took part in earlier calls;
a call for such definitions alone changes nothing. -/
theorem serveAll_finds_only_new (b : Buffer) (requests : List Request) :
    ∃ exchanges, b.serveAll requests = .ok exchanges ∧
      exchanges.map Exchange.request = requests ∧
      ∀ earlier x later, exchanges = earlier ++ x :: later →
        x.after.remaining.Sublist b.remaining ∧
          x.FindsOnlyNew (earlier.flatMap fun y => y.request.definitions) := by
  have hstart : b.IsExhaustedFor [] := by simp [IsExhaustedFor]
  simpa using serveAll_of_isExhaustedFor requests hstart

end Buffer

end ArgScan
