import ArgScan.Scan

/-!
# Claims

A definition claims a token if it is found in that token alone. This module shows that nothing but
this claim decides what a definition takes at any position of any tokens: `takeAt_append` says which
tokens go and which finding they give, in terms of the claim and of the tokens that follow, and the
tokens in front play no part.

What a claim takes is a `Taking`: the head alone, if it is a flag or holds its value, the head and
the token after it, which is not looked at, or the head without a value at the very end. In a batch
the first definition that claims a token takes it; `claimant?` finds its position.
-/

namespace ArgScan

/-- Whether a definition claims a token: tried on the token alone, it is present. -/
def Definition.claims (d : Definition) (token : String) : Bool :=
  match d.takeAt 0 [token] with
  | .ok probe => probe.finding.present
  | .error _ => false

/-! ## What a claim takes -/

/-- What an occurrence of a definition takes, and which value it gives. -/
inductive Taking where
  /-- The head alone: a flag, or an option whose value is in the head. -/
  | alone (value : Option String)
  /-- The head of an option and the token after it, which is the value. -/
  | pair (value : String)
  /-- The head of an option whose value would be the next token, and there is none. -/
  | dangling
deriving DecidableEq

/-- The finding of an occurrence. -/
def Taking.finding : Taking → Finding
  | alone value => .found value
  | pair value => .found (some value)
  | dangling => .found none

/-- The tokens that an occurrence takes after its head. -/
def Taking.extra : Taking → List String
  | pair value => [value]
  | _ => []

/-- Whether an occurrence lacks the token that would be its value. -/
def Taking.isDangling : Taking → Bool
  | dangling => true
  | _ => false

/-- What a claim takes when the given tokens follow, and the tokens that are left of them. -/
def Claim.taking : Claim → List String → Taking × List String
  | flag, rest => (.alone none, rest)
  | inline value, rest => (.alone (some value), rest)
  | next, value :: rest => (.pair value, rest)
  | next, [] => (.dangling, [])

/-- Every occurrence is present. -/
theorem Taking.present_finding (k : Taking) : k.finding.present = true := by
  cases k <;> rfl

/-- The tokens that follow a head are those that its occurrence takes and those that are left. -/
theorem Claim.extra_append_taking (c : Claim) (rest : List String) :
    (c.taking rest).1.extra ++ (c.taking rest).2 = rest := by
  cases c with
  | flag => rfl
  | inline value => rfl
  | next => cases rest <;> rfl

/-- What is left is the end of what followed the head. -/
theorem Claim.taking_isSuffix (c : Claim) (rest : List String) : (c.taking rest).2 <:+ rest :=
  ⟨(c.taking rest).1.extra, c.extra_append_taking rest⟩

/-! ## Trying a definition between tokens -/

/-- There are more tokens than those in front of one of them. -/
theorem length_lt_length_append_cons (front : List String) (t : String) (rest : List String) :
    front.length < (front ++ t :: rest).length := by
  rw [List.length_append, List.length_cons]
  omega

/-- The place of the token behind a number of tokens. -/
theorem place?_length_append (front : List String) (t : String) (rest : List String) :
    place? (front ++ t :: rest).length front.length = some front.length := by
  have hlt := length_lt_length_append_cons front t rest
  have hnonneg : ¬ (front.length : Int) < 0 := by omega
  simp only [place?, if_neg hnonneg]
  rw [if_pos (by omega), Int.toNat_natCast]

/-- Taking out the token behind a number of tokens. -/
theorem eraseIdx_length_append (front : List String) (t : String) (rest : List String) :
    (front ++ t :: rest).eraseIdx front.length = front ++ rest := by
  rw [List.eraseIdx_append_of_length_le (Nat.le_refl _), Nat.sub_self, List.eraseIdx_zero,
    List.tail_cons]

/-- The token behind a number of tokens. -/
theorem getD_length_append (front : List String) (t : String) (rest : List String) :
    (front ++ t :: rest).getD front.length "" = t := by
  rw [List.getD_eq_getElem?_getD, List.getElem?_append_right (Nat.le_refl _), Nat.sub_self]
  rfl

/-- A definition tried at a position takes what its claim of the token there takes. -/
theorem Definition.takeAt_append (d : Definition) (front : List String) (t : String)
    (rest : List String) :
    d.takeAt front.length (front ++ t :: rest) =
      match d.claim? t with
      | none => .ok { finding := .absent, tokens := front ++ t :: rest }
      | some c => .ok
          { finding := (c.taking rest).1.finding
            tokens := front ++ (c.taking rest).2
            dangling := (c.taking rest).1.isDangling } := by
  unfold takeAt
  rw [place?_length_append]
  simp only [eraseIdx_length_append, getD_length_append]
  cases d.claim? t with
  | none => rfl
  | some c =>
    cases c with
    | flag => rfl
    | inline value => rfl
    | next =>
      -- The next token, if there is one, has moved to the position that the head has left.
      cases rest with
      | nil => simp [Claim.taking, Taking.finding, Taking.isDangling]
      | cons value rest =>
        have hlt : (front.length : Int) < ((front ++ value :: rest).length : Int) :=
          Int.ofNat_lt.2 (length_lt_length_append_cons front value rest)
        simp only [if_pos hlt, place?_length_append, eraseIdx_length_append, getD_length_append]
        rfl

/-- A definition claims the tokens that it takes in some way. -/
theorem Definition.claims_eq_isSome (d : Definition) (t : String) :
    d.claims t = (d.claim? t).isSome := by
  have h : d.takeAt 0 [t] = _ := d.takeAt_append [] t []
  unfold claims
  rw [h]
  cases d.claim? t with
  | none => rfl
  | some c => exact (c.taking []).1.present_finding

/-- A definition does not claim a token exactly if it takes it in no way. -/
theorem Definition.claims_eq_false_iff (d : Definition) (t : String) :
    d.claims t = false ↔ d.claim? t = none := by
  rw [claims_eq_isSome, Option.isSome_eq_false_iff, Option.isNone_iff_eq_none]

/-! ## The claimant in a batch -/

/-- The first definition of a batch that claims a token, by its position, and how it takes the
token. -/
def claimant? : List Definition → String → Option (Nat × Claim)
  | [], _ => none
  | d :: rest, token =>
    if d.claims token then (d.claim? token).map fun claim => (0, claim)
    else (claimant? rest token).map fun (i, claim) => (i + 1, claim)

/-- The claimant is the first definition if that takes the token. -/
theorem claimant?_cons_of_some {d : Definition} {t : String} {c : Claim} (ds : List Definition)
    (h : d.claim? t = some c) : claimant? (d :: ds) t = some (0, c) := by
  unfold claimant?
  rw [d.claims_eq_isSome, h]
  rfl

/-- The claimant is one of the later definitions if the first does not take the token. -/
theorem claimant?_cons_of_none {d : Definition} {t : String} (ds : List Definition)
    (h : d.claim? t = none) :
    claimant? (d :: ds) t = (claimant? ds t).map fun (i, c) => (i + 1, c) := by
  rw [claimant?, d.claims_eq_isSome, h]
  rfl

/-- There is no claimant exactly if no definition claims the token. -/
theorem claimant?_eq_none_iff (ds : List Definition) (t : String) :
    claimant? ds t = none ↔ ∀ d ∈ ds, d.claims t = false := by
  induction ds with
  | nil => simp [claimant?]
  | cons d ds ih =>
    rw [List.forall_mem_cons, d.claims_eq_false_iff, ← ih]
    cases h : d.claim? t with
    | none => simp [claimant?_cons_of_none ds h]
    | some c => simp [claimant?_cons_of_some ds h]

/-- The claimant takes the token, and no definition before it claims it. -/
theorem claimant?_eq_some_iff (ds : List Definition) (t : String) (i : Nat) (c : Claim) :
    claimant? ds t = some (i, c) ↔
      (∃ d, ds[i]? = some d ∧ d.claim? t = some c) ∧ ∀ d ∈ ds.take i, d.claims t = false := by
  induction ds generalizing i with
  | nil => simp [claimant?]
  | cons d ds ih =>
    cases h : d.claim? t with
    | some c' =>
      have hd : d.claims t = true := by rw [d.claims_eq_isSome, h]; rfl
      rw [claimant?_cons_of_some ds h]
      cases i <;> simp [h, hd]
    | none =>
      have hd : d.claims t = false := (d.claims_eq_false_iff t).2 h
      rw [claimant?_cons_of_none ds h]
      cases i with
      | zero => simp [h]
      | succ i =>
        -- Among the later definitions each position is one less.
        have hshift : ((claimant? ds t).map fun (i, c) => (i + 1, c)) = some (i + 1, c) ↔
            claimant? ds t = some (i, c) := by
          cases claimant? ds t <;> simp [Prod.ext_iff]
        rw [hshift, ih, List.getElem?_cons_succ, List.take_succ_cons, List.forall_mem_cons]
        simp [hd]

end ArgScan
