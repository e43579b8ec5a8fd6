import ArgScan.Proofs.RoundTrip
import Mathlib.Data.List.FinRange
import Mathlib.Logic.Equiv.Basic

/-!
# The order of a batch

The order of a batch decides who takes a token that several definitions claim, and nothing else:
if no token is claimed at two positions, a scan for the same definitions in any other order leaves
the same tokens, and its findings are those of the first scan in that order (`scan_permuted`).

A reading asks a batch for nothing but the claimant of each head. So if the claimants in two batches
differ only in their positions, the readings are the same but for the positions of the owners
(`reading_eq_map_reown`). Where at most one position claims a token, its claimant is found there
whatever stands before it (`claimant?_permuted`).
-/

namespace ArgScan

/-! ## Owners at other positions -/

/-- The part with its owner at another position. -/
def Part.reown (f : Nat → Nat) : Part → Part
  | kept t => kept t
  | taken owner head k => taken (f owner) head k

variable {ds ds' : List Definition} {f : Nat → Nat}

/-- If two batches take each token in the same way, at positions that correspond, their readings
correspond. -/
theorem reading_eq_map_reown {ts : List String}
    (h : ∀ t ∈ ts, claimant? ds' t = (claimant? ds t).map fun (i, c) => (f i, c)) :
    reading ds' ts = (reading ds ts).map (Part.reown f) := by
  induction ts using reading_induction ds with
  | nil => rfl
  | kept t rest hc ih =>
    have ht := h t List.mem_cons_self
    rw [hc, Option.map_none] at ht
    rw [reading_cons_of_none ht, reading_cons_of_none hc, List.map_cons,
      ih fun u hu => h u (List.mem_cons_of_mem t hu)]
    rfl
  | taken t rest i c hc ih =>
    have ht := h t List.mem_cons_self
    rw [hc, Option.map_some] at ht
    -- The tokens behind the occurrence are some of those behind the head.
    have hrest : ∀ u ∈ (c.taking rest).2,
        claimant? ds' u = (claimant? ds u).map fun (i, c) => (f i, c) := fun u hu =>
      h u (List.mem_cons_of_mem t ((c.taking_isSuffix rest).subset hu))
    rw [reading_cons_of_some ht, reading_cons_of_some hc, List.map_cons, ih hrest]
    rfl

/-- Owners at other positions keep the same tokens. -/
theorem keptTokens_map_reown (f : Nat → Nat) (parts : List Part) :
    keptTokens (parts.map (Part.reown f)) = keptTokens parts := by
  have hpart : Part.kept? ∘ Part.reown f = Part.kept? := by
    funext part
    cases part <;> rfl
  unfold keptTokens
  rw [List.filterMap_map, hpart]

/-- What is found for a definition is found at the position that it has moved to, if no other owner
has moved there. -/
theorem lastFinding_map_reown {parts : List Part} {i : Nat}
    (h : ∀ owner head k, .taken owner head k ∈ parts → f owner = f i → owner = i) :
    lastFinding (parts.map (Part.reown f)) (f i) = lastFinding parts i := by
  unfold lastFinding
  rw [List.filterMap_map]
  congr 2
  apply List.filterMap_congr
  intro part hpart
  cases part with
  | kept t => rfl
  | taken owner head k =>
    show (Part.taken (f owner) head k).findingFor? (f i) = (Part.taken owner head k).findingFor? i
    by_cases howner : owner = i
    · rw [howner, Part.findingFor?_taken_self, Part.findingFor?_taken_self]
    · have hmoved : f owner ≠ f i := fun heq => howner (h owner head k hpart heq)
      rw [Part.findingFor?_taken_of_ne hmoved, Part.findingFor?_taken_of_ne howner]

/-! ## Batches in another order -/

/-- No two positions of the batch claim the token. -/
def IsUnambiguous (ds : List Definition) (t : String) : Prop :=
  ∀ i j : Fin ds.length, ds[i].claims t = true → ds[j].claims t = true → i = j

instance (ds : List Definition) (t : String) : Decidable (IsUnambiguous ds t) :=
  inferInstanceAs (Decidable (∀ _ _ : Fin ds.length, _))

/-- The batch in another order: each position has the definition at the position that the
permutation gives. -/
def permuted (ds : List Definition) (σ : Equiv.Perm (Fin ds.length)) : List Definition :=
  List.ofFn fun i => ds[σ i]

/-- The position at which a permuted batch has the definition of a position. -/
def movedTo {n : Nat} (σ : Equiv.Perm (Fin n)) (i : Nat) : Nat :=
  if h : i < n then σ.symm ⟨i, h⟩ else i

/-- The position of a definition in the permuted batch. -/
theorem movedTo_apply {n : Nat} (σ : Equiv.Perm (Fin n)) (i : Fin n) :
    movedTo σ (σ i) = i := by
  rw [movedTo, dif_pos (σ i).isLt, Fin.eta, Equiv.symm_apply_apply]

/-- Every position is that of some definition in the permuted batch. -/
theorem exists_apply_val_eq {n : Nat} (σ : Equiv.Perm (Fin n)) {i : Nat} (hi : i < n) :
    ∃ j, ((σ j : Fin n) : Nat) = i :=
  ⟨σ.symm ⟨i, hi⟩, by rw [Equiv.apply_symm_apply]⟩

/-- The definition that a permuted batch has at a position. -/
theorem getElem?_permuted (ds : List Definition) (σ : Equiv.Perm (Fin ds.length))
    (i : Fin ds.length) : (permuted ds σ)[(i : Nat)]? = some ds[σ i] := by
  rw [permuted, List.getElem?_ofFn, dif_pos i.isLt]

/-- A definition of a permuted batch that stands before a position has a smaller position. -/
theorem exists_of_mem_take_permuted {ds : List Definition} {σ : Equiv.Perm (Fin ds.length)}
    {i : Nat} {d : Definition} (h : d ∈ (permuted ds σ).take i) :
    ∃ j : Fin ds.length, (j : Nat) < i ∧ ds[σ j] = d := by
  obtain ⟨j, hj, hd⟩ := List.mem_take_iff_getElem.1 h
  rw [permuted, List.length_ofFn] at hj
  refine ⟨⟨j, by omega⟩, by simp only; omega, ?_⟩
  rw [← hd]
  simp [permuted]

/-- The claimant of a token that no two positions claim is the same definition in any order. -/
theorem claimant?_permuted {t : String} (h : IsUnambiguous ds t)
    (σ : Equiv.Perm (Fin ds.length)) :
    claimant? (permuted ds σ) t = (claimant? ds t).map fun (i, c) => (movedTo σ i, c) := by
  cases hc : claimant? ds t with
  | none =>
    rw [Option.map_none, claimant?_eq_none_iff]
    intro d hd
    obtain ⟨i, rfl⟩ := List.mem_ofFn.1 hd
    exact (claimant?_eq_none_iff ds t).1 hc _ (List.getElem_mem _)
  | some found =>
    obtain ⟨i, c⟩ := found
    obtain ⟨⟨d, hd, hclaim⟩, -⟩ := (claimant?_eq_some_iff ds t i c).1 hc
    obtain ⟨hi, rfl⟩ := List.getElem?_eq_some_iff.1 hd
    obtain ⟨j, rfl⟩ := exists_apply_val_eq σ hi
    have hclaims : ds[σ j].claims t = true := by
      rw [Definition.claims_eq_isSome, Fin.getElem_fin, hclaim]
      rfl
    show claimant? (permuted ds σ) t = some (movedTo σ (σ j), c)
    rw [movedTo_apply, claimant?_eq_some_iff]
    refine ⟨⟨ds[σ j], getElem?_permuted ds σ j, hclaim⟩, ?_⟩
    -- A definition before it that claims the token would stand at the same position.
    intro e he
    obtain ⟨j', hlt, rfl⟩ := exists_of_mem_take_permuted he
    by_contra hclaims'
    rw [Bool.not_eq_false] at hclaims'
    have heq : j' = j := σ.injective (h _ _ hclaims' hclaims)
    rw [heq] at hlt
    exact Nat.lt_irrefl _ hlt

/-- The values of a function at the positions of a batch. -/
theorem map_range_eq_ofFn {α : Type} {n : Nat} (g : Nat → α) :
    (List.range n).map g = List.ofFn fun i : Fin n => g i := by
  rw [List.ofFn_eq_map, ← List.map_coe_finRange_eq_range, List.map_map]
  rfl

/-- If no token is claimed at two positions of a batch, a scan for the batch in another order leaves
the same tokens, and gives the findings in that order. -/
theorem scan_permuted (ds : List Definition) (ts : List String)
    (h : ∀ t ∈ ts, IsUnambiguous ds t) (σ : Equiv.Perm (Fin ds.length)) :
    ∃ s s' found, scan ds ts = .ok s ∧ scan (permuted ds σ) ts = .ok s' ∧
      s.findings = List.ofFn found ∧ s'.findings = List.ofFn (fun i => found (σ i)) ∧
      s'.tokens = s.tokens := by
  obtain ⟨s, hs, htokens, hfindings⟩ := exists_scan_eq_ok ds ts
  obtain ⟨s', hs', htokens', hfindings'⟩ := exists_scan_eq_ok (permuted ds σ) ts
  have hread : reading (permuted ds σ) ts = (reading ds ts).map (Part.reown (movedTo σ)) :=
    reading_eq_map_reown fun t ht => claimant?_permuted (h t ht) σ
  refine ⟨s, s', fun i => lastFinding (reading ds ts) i, hs, hs', ?_, ?_, ?_⟩
  · rw [hfindings, map_range_eq_ofFn]
  · have hlength : (permuted ds σ).length = ds.length := List.length_ofFn
    rw [hfindings', hlength, map_range_eq_ofFn, hread]
    congr 1
    funext i
    -- Of the owners only the definition itself has moved to its position.
    have hback : lastFinding ((reading ds ts).map (Part.reown (movedTo σ))) (movedTo σ (σ i)) =
        lastFinding (reading ds ts) (σ i) := by
      apply lastFinding_map_reown
      intro owner head k hmem heq
      obtain ⟨j, rfl⟩ := exists_apply_val_eq σ (owner_lt_of_taken_mem hmem)
      rw [movedTo_apply, movedTo_apply] at heq
      rw [Fin.ext heq]
    rwa [movedTo_apply] at hback
  · rw [htokens', htokens, hread, keptTokens_map_reown]

/-- The order in which the first of three comes last. -/
def firstLast : Equiv.Perm (Fin 3) where
  toFun i := i + 1
  invFun i := i + 2
  left_inv := by unfold Function.LeftInverse; decide
  right_inv := by unfold Function.RightInverse Function.LeftInverse; decide

/-- The option that takes a token that looks like the flag takes it in either order. -/
theorem scan_permuted_first_last :
    (∀ t ∈ ["--name", "-v", "-n5", "file", "-v"], IsUnambiguous mixedBatch t) ∧
      ∃ s s', scan mixedBatch ["--name", "-v", "-n5", "file", "-v"] = .ok s ∧
        scan (permuted mixedBatch firstLast) ["--name", "-v", "-n5", "file", "-v"] = .ok s' ∧
        s.findings = [.found (some "5"), .found (some "-v"), .flag] ∧
        s'.findings = [.found (some "-v"), .flag, .found (some "5")] ∧
        s'.tokens = ["file"] := by
  have hone : ∀ t ∈ ["--name", "-v", "-n5", "file", "-v"], IsUnambiguous mixedBatch t := by decide
  obtain ⟨s, s', (found : Fin 3 → Finding), hs, hs', hfindings, hfindings', htokens⟩ :=
    scan_permuted mixedBatch ["--name", "-v", "-n5", "file", "-v"] hone firstLast
  obtain rfl : _ = s := Except.ok.inj hs
  -- The findings of the first scan, one by one, are those of the second in the other order.
  have hfound : [.found (some "5"), .found (some "-v"), .flag] = [found 0, found 1, found 2] :=
    hfindings
  obtain ⟨h0, h1, h2⟩ : .found (some "5") = found 0 ∧ .found (some "-v") = found 1 ∧
      .flag = found 2 := by simpa using hfound
  have hmoved : s'.findings = [found 1, found 2, found 0] := hfindings'
  refine ⟨hone, _, s', hs, hs', rfl, ?_, htokens⟩
  rw [hmoved, h0, h1, h2]

end ArgScan
