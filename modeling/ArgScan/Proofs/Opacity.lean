import ArgScan.Proofs.RoundTrip
import Mathlib.Data.List.Basic

/-!
# Tokens that a scan does not look into

A reading gives each token a role: it is kept, or it is the head of an occurrence, or the value of
one in a token of its own. The roles depend on the heads alone. This module shows that a value may
be replaced by any text, even by one that looks like an argument, and a kept token by any text that
no definition claims, and all tokens keep their roles (`scan_of_replaces`). The scan then leaves the
tokens in the same places, and its findings differ in nothing but the values that were replaced.

The argument has two steps. Two token lists that differ only so have readings that differ only in
the hidden texts (`map_masked_reading`), and whatever a reading gives is a function of its masked
parts and of the tokens in the places that the roles point out: the kept tokens
(`keptTokens_reading`), and the value of a definition's last occurrence
(`lastFinding_of_takesLastValueAt`, `lastFinding_map_masked`).
-/

namespace ArgScan

/-! ## Roles -/

/-- What a scan makes of a token. -/
inductive Role where
  /-- The token stays. -/
  | kept
  /-- An occurrence of the definition at a position begins with the token. -/
  | head (owner : Nat)
  /-- The token is taken for the value of the definition at a position. -/
  | value (owner : Nat)
deriving DecidableEq

/-- The roles of the tokens of a part. -/
def Part.roles : Part → List Role
  | kept _ => [.kept]
  | taken owner _ k => .head owner :: k.extra.map fun _ => .value owner

/-- The roles that a scan gives to the tokens, in order. -/
def roles (definitions : List Definition) (tokens : List String) : List Role :=
  (reading definitions tokens).flatMap Part.roles

/-- The tokens in the places of the kept ones. -/
def tokensAtKept (roles : List Role) (tokens : List String) : List String :=
  ((roles.zip tokens).filter fun x => x.1 = .kept).map Prod.snd

/-- The last occurrence of a definition takes the token in a place for its value. -/
def TakesLastValueAt (roles : List Role) (owner place : Nat) : Prop :=
  roles[place]? = some (.value owner) ∧ ∀ later, place < later → roles[later]? ≠ some (.head owner)

/-- Whether a token may be replaced by another in its role: a value by any, a kept token by one that
no definition claims, and a head by none but itself. -/
def Role.Admits (ds : List Definition) (old new : String) : Role → Prop
  | kept => new = old ∨ ∀ d ∈ ds, d.claims new = false
  | head _ => new = old
  | value _ => True

/-- The new tokens are as many as the old ones, and each is the old one in its place or one that the
role of the place admits instead. -/
structure Replaces (ds : List Definition) (roles : List Role) (old new : List String) : Prop where
  /-- There are as many. -/
  length_eq : new.length = old.length
  /-- Each is admitted. -/
  admits : ∀ (place : Nat) role t u, roles[place]? = some role → old[place]? = some t →
    new[place]? = some u → role.Admits ds t u

variable {ds : List Definition}

/-- A part has a role for each of its tokens. -/
theorem Part.length_roles (part : Part) : part.roles.length = part.tokens.length := by
  cases part with
  | kept t => rfl
  | taken owner head k => simp [roles, tokens]

/-- There is a role for each token. -/
theorem length_flatMap_roles (parts : List Part) :
    (parts.flatMap Part.roles).length = (parts.flatMap Part.tokens).length := by
  induction parts with
  | nil => rfl
  | cons part parts ih =>
    rw [List.flatMap_cons, List.flatMap_cons, List.length_append, List.length_append, ih,
      part.length_roles]

/-- The first token's role, if it is kept. -/
theorem roles_cons_of_none {t : String} (h : claimant? ds t = none) (rest : List String) :
    roles ds (t :: rest) = .kept :: roles ds rest := by
  rw [roles, reading_cons_of_none h, List.flatMap_cons]
  rfl

/-- The roles of the first tokens, if they are an occurrence. -/
theorem roles_cons_of_some {t : String} {i : Nat} {c : Claim} (h : claimant? ds t = some (i, c))
    (rest : List String) :
    roles ds (t :: rest) =
      .head i :: ((c.taking rest).1.extra.map fun _ => .value i) ++ roles ds (c.taking rest).2 := by
  rw [roles, reading_cons_of_some h, List.flatMap_cons]
  rfl

/-! ## Replaced tokens -/

/-- A token in front may be replaced as its role admits. -/
theorem Replaces.cons {role : Role} {rs : List Role} {t u : String} {old new : List String}
    (hfirst : role.Admits ds t u) (h : Replaces ds rs old new) :
    Replaces ds (role :: rs) (t :: old) (u :: new) where
  length_eq := by rw [List.length_cons, List.length_cons, h.length_eq]
  admits place role' t' u' hrole ht hu := by
    cases place with
    | zero =>
      obtain rfl : role = role' := Option.some.inj hrole
      obtain rfl : t = t' := Option.some.inj ht
      obtain rfl : u = u' := Option.some.inj hu
      exact hfirst
    | succ place => exact h.admits place role' t' u' hrole ht hu

/-- Where there are no tokens, none replace them. -/
theorem Replaces.eq_nil {rs : List Role} {new : List String} (h : Replaces ds rs [] new) :
    new = [] :=
  List.length_eq_zero_iff.1 h.length_eq

/-- The first token is replaced by the first, and the others by the others. -/
theorem Replaces.exists_cons {role : Role} {rs : List Role} {t : String} {old new : List String}
    (h : Replaces ds (role :: rs) (t :: old) new) :
    ∃ u new', new = u :: new' ∧ role.Admits ds t u ∧ Replaces ds rs old new' := by
  cases new with
  | nil => exact absurd h.length_eq (by simp)
  | cons u new' =>
    have hlength : new'.length = old.length := by simpa using h.length_eq
    refine ⟨u, new', rfl, h.admits 0 role t u rfl rfl rfl, hlength, ?_⟩
    intro place role t u hrole ht hu
    exact h.admits (place + 1) role t u hrole ht hu

/-- The part without the texts that a scan does not look into. -/
def Part.masked : Part → Part
  | kept _ => kept ""
  | taken owner head (.pair _) => taken owner head (.pair "")
  | taken owner head k => taken owner head k

/-- Masking does not change the roles. -/
theorem Part.roles_masked (part : Part) : part.masked.roles = part.roles := by
  cases part with
  | kept t => rfl
  | taken owner head k => cases k <;> rfl

/-- A kept token that is replaced has no claimant either. -/
theorem claimant?_eq_none_of_admits {t u : String} (ht : claimant? ds t = none)
    (h : Role.kept.Admits ds t u) : claimant? ds u = none := by
  rcases h with rfl | hnone
  · exact ht
  · exact (claimant?_eq_none_iff ds u).2 hnone

/-- An occurrence whose tokens are replaced behind the head differs in its masked text only, and the
tokens behind it are replaced as well. -/
theorem Replaces.taking {c : Claim} {i : Nat} {rs : List Role} {old new : List String}
    (h : Replaces ds (((c.taking old).1.extra.map fun _ => .value i) ++ rs) old new)
    (head : String) :
    Part.masked (.taken i head (c.taking new).1) = Part.masked (.taken i head (c.taking old).1) ∧
      Replaces ds rs (c.taking old).2 (c.taking new).2 := by
  cases c with
  | flag => exact ⟨rfl, h⟩
  | inline value => exact ⟨rfl, h⟩
  | next =>
    cases old with
    | nil =>
      obtain rfl := h.eq_nil
      exact ⟨rfl, h⟩
    | cons value old =>
      -- Whatever replaces the value is the value.
      obtain ⟨value', new', rfl, -, hrest⟩ := h.exists_cons
      exact ⟨rfl, hrest⟩

/-- Where the tokens are replaced as their roles admit, the readings differ in masked texts only. -/
theorem map_masked_reading {old : List String} :
    ∀ {new : List String}, Replaces ds (roles ds old) old new →
      (reading ds new).map Part.masked = (reading ds old).map Part.masked := by
  induction old using reading_induction ds with
  | nil =>
    intro new h
    rw [h.eq_nil]
  | kept t rest hc ih =>
    intro new h
    rw [roles_cons_of_none hc] at h
    obtain ⟨u, new', rfl, hadmits, hrest⟩ := h.exists_cons
    rw [reading_cons_of_none hc, reading_cons_of_none (claimant?_eq_none_of_admits hc hadmits),
      List.map_cons, List.map_cons, ih hrest]
    rfl
  | taken t rest i c hc ih =>
    intro new h
    rw [roles_cons_of_some hc] at h
    obtain ⟨u, new', rfl, rfl, hbehind⟩ := h.exists_cons
    obtain ⟨hpart, hrest⟩ := hbehind.taking u
    rw [reading_cons_of_some hc, reading_cons_of_some hc, List.map_cons, List.map_cons, hpart,
      ih hrest]

/-- Replaced tokens have the roles of the old ones. -/
theorem roles_of_replaces {old new : List String} (h : Replaces ds (roles ds old) old new) :
    roles ds new = roles ds old := by
  have hmasked : ∀ parts : List Part,
      parts.flatMap Part.roles = (parts.map Part.masked).flatMap Part.roles := by
    intro parts
    rw [List.flatMap_map]
    exact congrArg (parts.flatMap ·) (funext fun part => part.roles_masked.symm)
  rw [roles, hmasked, map_masked_reading h, ← hmasked, roles]

/-! ## What is left -/

/-- The tokens in the places of the kept ones are the kept tokens. -/
theorem tokensAtKept_eq (parts : List Part) :
    tokensAtKept (parts.flatMap Part.roles) (parts.flatMap Part.tokens) = keptTokens parts := by
  induction parts with
  | nil => rfl
  | cons part parts ih =>
    have hzip : tokensAtKept ((part :: parts).flatMap Part.roles)
        ((part :: parts).flatMap Part.tokens) =
          tokensAtKept part.roles part.tokens ++ keptTokens parts := by
      rw [← ih, List.flatMap_cons, List.flatMap_cons]
      unfold tokensAtKept
      rw [List.zip_append part.length_roles, List.filter_append, List.map_append]
    rw [hzip]
    cases part with
    | kept t => rfl
    | taken owner head k => cases k <;> rfl

/-- What a scan leaves are the tokens in the places of the kept ones. -/
theorem keptTokens_reading (ds : List Definition) (ts : List String) :
    keptTokens (reading ds ts) = tokensAtKept (roles ds ts) ts := by
  have h := tokensAtKept_eq (reading ds ts)
  rw [tokens_reading] at h
  exact h.symm

/-! ## What is found -/

/-- A definition has no occurrence in some parts, or it has a last one. -/
theorem exists_last_occurrence (parts : List Part) (i : Nat) :
    (∀ head k, .taken i head k ∉ parts) ∨
      ∃ earlier head k later, parts = earlier ++ .taken i head k :: later ∧
        ∀ head k, .taken i head k ∉ later := by
  induction parts with
  | nil => exact .inl fun _ _ => List.not_mem_nil
  | cons part parts ih =>
    rcases ih with hnone | ⟨earlier, head, k, later, rfl, hlater⟩
    · by_cases hpart : ∃ head k, part = .taken i head k
      · obtain ⟨head, k, rfl⟩ := hpart
        exact .inr ⟨[], head, k, parts, rfl, hnone⟩
      · left
        intro head k hmem
        rcases List.mem_cons.1 hmem with heq | hmem
        · exact hpart ⟨head, k, heq.symm⟩
        · exact hnone head k hmem
    · exact .inr ⟨part :: earlier, head, k, later, rfl, hlater⟩

/-- What is found for a definition is what its last occurrence gives. -/
theorem lastFinding_of_last {i : Nat} (earlier : List Part) (head : String) (k : Taking)
    {later : List Part} (h : ∀ head k, .taken i head k ∉ later) :
    lastFinding (earlier ++ .taken i head k :: later) i = k.finding := by
  rw [List.append_cons, lastFinding_append, lastFinding_eq_absent h, Finding.absent_orElse,
    lastFinding_concat_taken, if_pos rfl]

/-- A definition without an occurrence has no token in a role. -/
theorem not_mem_roles {parts : List Part} {i : Nat} (h : ∀ head k, .taken i head k ∉ parts) :
    .head i ∉ parts.flatMap Part.roles ∧ .value i ∉ parts.flatMap Part.roles := by
  have howner : ∀ role ∈ parts.flatMap Part.roles, role ≠ .head i ∧ role ≠ .value i := by
    intro role hrole
    obtain ⟨part, hpart, hmem⟩ := List.mem_flatMap.1 hrole
    cases part with
    | kept t =>
      obtain rfl := List.mem_singleton.1 hmem
      exact ⟨nofun, nofun⟩
    | taken owner head k =>
      have hne : owner ≠ i := by
        rintro rfl
        exact h head k hpart
      rcases List.mem_cons.1 hmem with rfl | hmem
      · exact ⟨by simpa using hne, nofun⟩
      · obtain ⟨value, -, rfl⟩ := List.mem_map.1 hmem
        exact ⟨nofun, by simpa using hne⟩
  exact ⟨fun hmem => (howner _ hmem).1 rfl, fun hmem => (howner _ hmem).2 rfl⟩

/-- The place in two lists joined that is so far behind the first of them. -/
theorem getElem?_length_add_append {α : Type} (earlier later : List α) (n : Nat) :
    (earlier ++ later)[earlier.length + n]? = later[n]? := by
  rw [List.getElem?_append_right (Nat.le_add_right _ _), Nat.add_sub_cancel_left]

/-- Behind the last head of a definition, the token taken for its value is the next one, if the
occurrence takes one at all. -/
theorem takesLastValueAt_append_iff (earlier : List Role) (k : Taking) {later : List Role}
    {i place : Nat} (hhead : .head i ∉ later) (hvalue : .value i ∉ later) :
    TakesLastValueAt (earlier ++ (.head i :: k.extra.map fun _ => .value i) ++ later) i place ↔
      (∃ value, k = .pair value) ∧ place = earlier.length + 1 := by
  unfold TakesLastValueAt
  rw [List.append_assoc, List.cons_append]
  constructor
  · rintro ⟨hplace, hlast⟩
    -- The place is not before the head, and it is not that of the head.
    have hge : earlier.length ≤ place := by
      by_contra hlt
      refine hlast earlier.length (by omega) ?_
      exact getElem?_length_add_append earlier _ 0
    obtain ⟨n, rfl⟩ := Nat.exists_eq_add_of_le hge
    rw [getElem?_length_add_append] at hplace
    cases n with
    | zero => simp at hplace
    | succ n =>
      rw [List.getElem?_cons_succ] at hplace
      cases k with
      | alone value => exact absurd (List.mem_of_getElem? hplace) hvalue
      | dangling => exact absurd (List.mem_of_getElem? hplace) hvalue
      | pair value =>
        cases n with
        | zero => exact ⟨⟨value, rfl⟩, rfl⟩
        | succ n =>
          have hlater : later[n]? = some (.value i) := hplace
          exact absurd (List.mem_of_getElem? hlater) hvalue
  · rintro ⟨⟨value, rfl⟩, rfl⟩
    constructor
    · rw [getElem?_length_add_append]
      rfl
    · intro q hq hmem
      obtain ⟨n, rfl⟩ : ∃ n, q = earlier.length + (n + 2) := ⟨q - earlier.length - 2, by omega⟩
      rw [getElem?_length_add_append] at hmem
      exact hhead (List.mem_of_getElem? hmem)

/-- If the last occurrence of a definition takes the token in a place for its value, that token is
found. -/
theorem lastFinding_of_takesLastValueAt {parts : List Part} {i place : Nat}
    (h : TakesLastValueAt (parts.flatMap Part.roles) i place) :
    lastFinding parts i = .found (parts.flatMap Part.tokens)[place]? := by
  rcases exists_last_occurrence parts i with hnone | ⟨earlier, head, k, later, rfl, hlater⟩
  · exact absurd (List.mem_of_getElem? h.1) (not_mem_roles hnone).2
  · rw [List.flatMap_append, List.flatMap_cons, ← List.append_assoc] at h
    obtain ⟨hhead, hvalue⟩ := not_mem_roles hlater
    obtain ⟨⟨value, rfl⟩, rfl⟩ := (takesLastValueAt_append_iff _ k hhead hvalue).1 h
    rw [lastFinding_of_last earlier head _ hlater, List.flatMap_append, List.flatMap_cons,
      length_flatMap_roles, getElem?_length_add_append]
    rfl

/-- Masking does not give a definition an occurrence. -/
theorem not_mem_map_masked {parts : List Part} {i : Nat} (h : ∀ head k, .taken i head k ∉ parts) :
    ∀ head k, .taken i head k ∉ parts.map Part.masked := by
  intro head k hmem
  obtain ⟨part, hpart, hmasked⟩ := List.mem_map.1 hmem
  cases part with
  | kept t => contradiction
  | taken owner head' k' =>
    have howner : owner = i := by
      cases k' with
      | alone value => exact (Part.taken.inj hmasked).1
      | pair value => exact (Part.taken.inj hmasked).1
      | dangling => exact (Part.taken.inj hmasked).1
    rw [howner] at hpart
    exact h head' k' hpart

/-- Masking hides nothing of what is found, unless the last occurrence takes a token for its value.
-/
theorem lastFinding_map_masked {parts : List Part} {i : Nat}
    (h : ∀ place, ¬ TakesLastValueAt (parts.flatMap Part.roles) i place) :
    lastFinding (parts.map Part.masked) i = lastFinding parts i := by
  rcases exists_last_occurrence parts i with hnone | ⟨earlier, head, k, later, rfl, hlater⟩
  · rw [lastFinding_eq_absent hnone, lastFinding_eq_absent (not_mem_map_masked hnone)]
  · have hkeep : Part.masked (.taken i head k) = .taken i head k := by
      cases k with
      | alone value => rfl
      | dangling => rfl
      | pair value =>
        -- The value would be taken from the place behind the head.
        obtain ⟨hhead, hvalue⟩ := not_mem_roles hlater
        refine absurd ?_ (h ((earlier.flatMap Part.roles).length + 1))
        rw [List.flatMap_append, List.flatMap_cons, ← List.append_assoc]
        exact (takesLastValueAt_append_iff _ _ hhead hvalue).2 ⟨⟨value, rfl⟩, rfl⟩
    rw [List.map_append, List.map_cons, hkeep, lastFinding_of_last earlier head k hlater,
      lastFinding_of_last _ head k (not_mem_map_masked hlater)]

/-! ## Two scans -/

/-- The findings of two scans of tokens that are replaced as their roles admit: the value of the
last occurrence where that is a token of its own, and the same otherwise. -/
theorem lastFinding_of_replaces {old new : List String} (h : Replaces ds (roles ds old) old new)
    (i : Nat) :
    (∀ place, TakesLastValueAt (roles ds old) i place →
        lastFinding (reading ds old) i = .found old[place]? ∧
          lastFinding (reading ds new) i = .found new[place]?) ∧
      ((∀ place, ¬ TakesLastValueAt (roles ds old) i place) →
        lastFinding (reading ds new) i = lastFinding (reading ds old) i) := by
  have hroles := roles_of_replaces h
  constructor
  · intro place hplace
    have hold := lastFinding_of_takesLastValueAt hplace
    have hnew := lastFinding_of_takesLastValueAt (hroles ▸ hplace)
    rw [tokens_reading] at hold hnew
    exact ⟨hold, hnew⟩
  · intro hnone
    have hnone' : ∀ place, ¬ TakesLastValueAt (roles ds new) i place := by rwa [hroles]
    calc lastFinding (reading ds new) i
        = lastFinding ((reading ds new).map Part.masked) i := (lastFinding_map_masked hnone').symm
      _ = lastFinding ((reading ds old).map Part.masked) i := by rw [map_masked_reading h]
      _ = lastFinding (reading ds old) i := lastFinding_map_masked hnone

/-- If values are replaced by any tokens, and kept tokens by any that no definition claims, a scan
gives each token the same role. It leaves the tokens in the same places, finds the same definitions,
and finds the same values but for those that are replaced themselves. -/
theorem scan_of_replaces (ds : List Definition) (old new : List String)
    (h : Replaces ds (roles ds old) old new) :
    roles ds new = roles ds old ∧
      ∃ s s', scan ds old = .ok s ∧ scan ds new = .ok s' ∧
        s.tokens = tokensAtKept (roles ds old) old ∧
        s'.tokens = tokensAtKept (roles ds old) new ∧
        s'.findings.map Finding.present = s.findings.map Finding.present ∧
        ∀ (i : Nat) f f', s.findings[i]? = some f → s'.findings[i]? = some f' →
          (∀ place, TakesLastValueAt (roles ds old) i place →
            f = .found old[place]? ∧ f' = .found new[place]?) ∧
          ((∀ place, ¬ TakesLastValueAt (roles ds old) i place) → f' = f) := by
  have hroles := roles_of_replaces h
  obtain ⟨s, hs, htokens, hfindings⟩ := exists_scan_eq_ok ds old
  obtain ⟨s', hs', htokens', hfindings'⟩ := exists_scan_eq_ok ds new
  refine ⟨hroles, s, s', hs, hs', ?_, ?_, ?_, ?_⟩
  · rw [htokens, keptTokens_reading]
  · rw [htokens', keptTokens_reading, hroles]
  · rw [hfindings, hfindings', List.map_map, List.map_map]
    apply List.map_congr_left
    intro i _
    obtain ⟨hvalue, hsame⟩ := lastFinding_of_replaces h i
    show (lastFinding (reading ds new) i).present = (lastFinding (reading ds old) i).present
    by_cases hplace : ∃ place, TakesLastValueAt (roles ds old) i place
    · obtain ⟨place, hplace⟩ := hplace
      obtain ⟨hold, hnew⟩ := hvalue place hplace
      rw [hold, hnew]
      rfl
    · rw [hsame (not_exists.1 hplace)]
  · intro i f f' hf hf'
    rw [hfindings] at hf
    rw [hfindings'] at hf'
    obtain ⟨-, rfl⟩ := List.getElem?_eq_some_iff.1 hf
    obtain ⟨-, rfl⟩ := List.getElem?_eq_some_iff.1 hf'
    rw [List.getElem_map, List.getElem_map, List.getElem_range]
    exact lastFinding_of_replaces h i

/-- Two values that are replaced by tokens that look like arguments are still values, and the second
of them is found; a kept token that is replaced is still kept. -/
theorem scan_of_replaces_mixed_batch :
    Replaces mixedBatch
        (roles mixedBatch ["--name", "x", "-v", "file", "-n5", "--name", "y"])
        ["--name", "x", "-v", "file", "-n5", "--name", "y"]
        ["--name", "-n7", "-v", "other", "-n5", "--name", "-v"] ∧
      roles mixedBatch ["--name", "-n7", "-v", "other", "-n5", "--name", "-v"] =
        [.head 1, .value 1, .head 2, .kept, .head 0, .head 1, .value 1] ∧
      ∃ s s', scan mixedBatch ["--name", "x", "-v", "file", "-n5", "--name", "y"] = .ok s ∧
        scan mixedBatch ["--name", "-n7", "-v", "other", "-n5", "--name", "-v"] = .ok s' ∧
        s.findings = [.found (some "5"), .found (some "y"), .flag] ∧
        s'.findings[1]? = some (.found (some "-v")) ∧ s'.tokens = ["other"] := by
  have hroles : roles mixedBatch ["--name", "x", "-v", "file", "-n5", "--name", "y"] =
      [.head 1, .value 1, .head 2, .kept, .head 0, .head 1, .value 1] := by decide
  have hreplaces : Replaces mixedBatch
      (roles mixedBatch ["--name", "x", "-v", "file", "-n5", "--name", "y"])
      ["--name", "x", "-v", "file", "-n5", "--name", "y"]
      ["--name", "-n7", "-v", "other", "-n5", "--name", "-v"] := by
    have hother : Role.kept.Admits mixedBatch "file" "other" := .inr (by decide)
    rw [hroles]
    exact .cons rfl (.cons trivial (.cons rfl (.cons hother (.cons rfl (.cons rfl (.cons trivial
      ⟨rfl, by simp⟩))))))
  obtain ⟨hsame, s, s', hs, hs', -, htokens, hpresent, hvalues⟩ :=
    scan_of_replaces mixedBatch _ _ hreplaces
  have hfindings : [.found (some "5"), .found (some "y"), .flag] = s.findings :=
    Except.ok.inj (congrArg (Except.map Scan.findings) hs)
  rw [hroles] at hsame htokens hvalues
  -- The last value of the second definition is the last token.
  have hlast : TakesLastValueAt
      [.head 1, .value 1, .head 2, .kept, .head 0, .head 1, .value 1] 1 6 := by
    refine ⟨rfl, fun later hlt => ?_⟩
    rw [List.getElem?_eq_none (by simp; omega)]
    exact nofun
  have hlength : s'.findings.length = 3 := by
    rw [← hfindings] at hpresent
    simpa using congrArg List.length hpresent
  have hfirst : s.findings[1]? = some (.found (some "y")) := by rw [← hfindings]; rfl
  have hsecond : s'.findings[1]? = some s'.findings[1] := List.getElem?_eq_getElem (by omega)
  obtain ⟨-, hvalue⟩ := (hvalues 1 _ _ hfirst hsecond).1 6 hlast
  refine ⟨hreplaces, hsame, s, s', hs, hs', hfindings.symm, ?_, htokens⟩
  rw [hsecond, hvalue]
  rfl

end ArgScan
