import ArgScan.Proofs.Fitting

/-!
# Signed positions

A definition can be tried at a position that counts from the end of the tokens. The position is
resolved each time it is used, and for a value in the next token it is used twice: once to find the
option's token, and once more when that token is gone. A position that counts from the start then
means the token behind the option, but one that counts from the end means the token before it
(`Definition.takeAt_fromEnd_of_takesNext`), and the first of all positions means none
(`Definition.takeAt_fromEnd_of_takesNext_first`). All other claims use the position once, so it does
not matter from where it counts (`Definition.takeAt_fromEnd`).
-/

namespace ArgScan

/-! ## Places -/

/-- The position of the token in front of a number of tokens, counted from the end. -/
def fromEnd (after : List String) : Int := -(after.length + 1)

/-- A position is outside a list exactly if it means no place there. -/
theorem place?_eq_none_iff {length : Nat} {position : Int} :
    place? length position = none ↔ ¬ (-(length : Int) ≤ position ∧ position < length) := by
  unfold place?
  by_cases hneg : position < 0
  · simp only [if_pos hneg, ite_eq_right_iff, reduceCtorEq, imp_false]
    omega
  · simp only [if_neg hneg, ite_eq_right_iff, reduceCtorEq, imp_false]
    omega

/-- A position that counts from the end means the place of the token. -/
theorem place?_fromEnd (before : List String) (t : String) (after : List String) :
    place? (before ++ t :: after).length (fromEnd after) = some before.length := by
  have hlength : (before ++ t :: after).length = before.length + (after.length + 1) := by
    rw [List.length_append, List.length_cons]
  have hneg : fromEnd after < 0 := by
    unfold fromEnd
    omega
  have hplace : fromEnd after + (before ++ t :: after).length = before.length := by
    rw [hlength]
    unfold fromEnd
    omega
  simp only [place?, if_pos hneg, hplace]
  rw [if_pos (by rw [hlength]; omega), Int.toNat_natCast]

/-- A position inside a list is that of a token, counted from the start or from the end. -/
theorem exists_split_of_mem_range {tokens : List String} {position : Int}
    (hlow : -(tokens.length : Int) ≤ position) (hhigh : position < tokens.length) :
    ∃ before t after, tokens = before ++ t :: after ∧
      (position = before.length ∨ position = fromEnd after) := by
  have hsplit (i : Nat) (hi : i < tokens.length) :
      tokens = tokens.take i ++ tokens[i] :: tokens.drop (i + 1) := by
    rw [← List.drop_eq_getElem_cons hi, List.take_append_drop]
  by_cases hneg : position < 0
  · have hi : (position + tokens.length).toNat < tokens.length := by omega
    refine ⟨_, _, _, hsplit _ hi, .inr ?_⟩
    unfold fromEnd
    rw [List.length_drop]
    omega
  · have hi : position.toNat < tokens.length := by omega
    refine ⟨_, _, _, hsplit _ hi, .inl ?_⟩
    rw [List.length_take]
    omega

namespace Definition

variable {d : Definition} {t : String} {before after : List String}

/-! ## Values in the next token -/

/-- An option takes the token after a given one for its value: tried on the given token alone, it is
found without a value. -/
def TakesNext (d : Definition) (t : String) : Prop :=
  d.kind = .option ∧ ∃ probe, d.takeAt 0 [t] = .ok probe ∧ probe.finding = .found none

/-- The claim of an option is not that of a flag. -/
theorem claim?_ne_flag (hkind : d.kind = .option) : d.claim? t ≠ some .flag := by
  intro h
  obtain ⟨name, ending, -, hreads⟩ := claim?_eq_some_iff_firstFits.1 h
  cases hreads with
  | flag hflag =>
    rw [hkind] at hflag
    contradiction

/-- A claim with the next token for a value is that of an option. -/
theorem kind_eq_of_claim?_next (h : d.claim? t = some .next) : d.kind = .option := by
  obtain ⟨name, ending, -, hreads⟩ := claim?_eq_some_iff_firstFits.1 h
  cases hreads with
  | next hkind => exact hkind

/-- A claim of a token alone is found without a value exactly if it is a flag, or its value would be
the next token. -/
theorem finding_taking_nil_eq_iff (c : Claim) :
    (c.taking []).1.finding = .found none ↔ c = .flag ∨ c = .next := by
  cases c <;> simp [Claim.taking, Taking.finding, Finding.found]

/-- An option takes the token after a given one exactly if it claims the given one in this way. -/
theorem takesNext_iff : d.TakesNext t ↔ d.claim? t = some .next := by
  have halone : d.takeAt 0 [t] = _ := d.takeAt_append [] t []
  unfold TakesNext
  rw [halone]
  cases hc : d.claim? t with
  | none =>
    refine iff_of_false ?_ nofun
    rintro ⟨-, probe, hprobe, hfinding⟩
    obtain rfl := Except.ok.inj hprobe
    exact nomatch congrArg Finding.present hfinding
  | some c =>
    constructor
    · rintro ⟨hkind, probe, hprobe, hfinding⟩
      obtain rfl := Except.ok.inj hprobe
      rcases (finding_taking_nil_eq_iff c).1 hfinding with rfl | rfl
      · exact absurd hc (claim?_ne_flag hkind)
      · rfl
    · intro h
      obtain rfl := Option.some.inj h
      exact ⟨kind_eq_of_claim?_next hc, _, rfl, rfl⟩

/-! ## Trying a definition from the end -/

/-- A claim that needs one token alone is the same from the start and from the end. -/
theorem takeAt_fromEnd (h : ¬ d.TakesNext t) :
    d.takeAt (fromEnd after) (before ++ t :: after) =
      d.takeAt before.length (before ++ t :: after) := by
  rw [takesNext_iff] at h
  unfold takeAt
  rw [place?_fromEnd, place?_length_append]
  simp only [getD_length_append]
  cases hc : d.claim? t with
  | none => rfl
  | some c =>
    cases c with
    | flag => rfl
    | inline value => rfl
    | next => exact absurd hc h

/-- From the end, the value in the next token is the token before the option. -/
theorem takeAt_fromEnd_of_takesNext (h : d.TakesNext t) (front : List String) (value : String) :
    d.takeAt (fromEnd after) (front ++ value :: t :: after) =
      .ok { finding := .found (some value), tokens := front ++ after } := by
  have hsplit : front ++ value :: t :: after = (front ++ [value]) ++ t :: after := by
    rw [List.append_assoc, List.singleton_append]
  have hothers : (front ++ [value]) ++ after = front ++ value :: after := by
    rw [List.append_assoc, List.singleton_append]
  have hlt : fromEnd after < ((front ++ value :: after).length : Int) := by
    unfold fromEnd
    omega
  unfold takeAt
  rw [hsplit, place?_fromEnd]
  simp only [getD_length_append, eraseIdx_length_append, takesNext_iff.1 h, hothers]
  -- Without the option's token the position means the last token before it.
  simp only [if_pos hlt, place?_fromEnd, getD_length_append, eraseIdx_length_append]

/-- At the first of all tokens there is no token before the option. The option's token is gone when
that shows. -/
theorem takeAt_fromEnd_of_takesNext_first (h : d.TakesNext t) :
    d.takeAt (fromEnd after) (t :: after) = .error ⟨after⟩ := by
  have hplace : place? (t :: after).length (fromEnd after) = some 0 := place?_fromEnd [] t after
  have hlt : fromEnd after < (after.length : Int) := by
    unfold fromEnd
    omega
  have hnone : place? after.length (fromEnd after) = none := by
    rw [place?_eq_none_iff]
    unfold fromEnd
    omega
  unfold takeAt
  rw [hplace]
  simp only [List.getD_cons_zero, List.eraseIdx_zero, List.tail_cons, takesNext_iff.1 h, if_pos hlt,
    hnone]

/-- Counted from the start, the place of a token gives a result. -/
theorem takeAt_length_ne_error (fault : PositionFault) :
    d.takeAt before.length (before ++ t :: after) ≠ .error fault := by
  rw [takeAt_append]
  cases d.claim? t <;> exact nofun

/-- Counted from the end, the place of a token fails exactly if the token is the first of all and an
option takes the next one for its value. -/
theorem takeAt_fromEnd_eq_error_iff {left : List String} :
    d.takeAt (fromEnd after) (before ++ t :: after) = .error ⟨left⟩ ↔
      before = [] ∧ left = after ∧ d.TakesNext t := by
  by_cases hnext : d.TakesNext t
  · rcases before.eq_nil_or_concat with rfl | ⟨front, value, rfl⟩
    · rw [List.nil_append, takeAt_fromEnd_of_takesNext_first hnext, Except.error.injEq,
        PositionFault.mk.injEq]
      simp only [hnext, and_true, true_and, eq_comm]
    · have hsplit : front.concat value ++ t :: after = front ++ value :: t :: after := by
        rw [List.concat_eq_append, List.append_assoc, List.singleton_append]
      rw [hsplit, takeAt_fromEnd_of_takesNext hnext]
      simp
  · rw [takeAt_fromEnd hnext]
    exact iff_of_false (takeAt_length_ne_error _) fun h => hnext h.2.2

/-- A position fails exactly if it is outside the tokens, or if it is that of the first token,
counted from the end, and an option takes the token after it for its value. -/
theorem takeAt_eq_error_iff {tokens left : List String} {position : Int} :
    d.takeAt position tokens = .error ⟨left⟩ ↔
      ¬ (-(tokens.length : Int) ≤ position ∧ position < tokens.length) ∧ left = tokens ∨
        position = -(tokens.length : Int) ∧ ∃ t, tokens = t :: left ∧ d.TakesNext t := by
  by_cases hrange : -(tokens.length : Int) ≤ position ∧ position < tokens.length
  · obtain ⟨before, t, after, rfl, rfl | rfl⟩ := exists_split_of_mem_range hrange.1 hrange.2
    · refine iff_of_false (takeAt_length_ne_error _) ?_
      rintro (⟨hout, -⟩ | ⟨hfirst, -⟩)
      · exact hout hrange
      · rw [List.length_append, List.length_cons] at hfirst
        omega
    · rw [takeAt_fromEnd_eq_error_iff]
      constructor
      · rintro ⟨rfl, rfl, hnext⟩
        exact .inr ⟨rfl, t, rfl, hnext⟩
      · rintro (⟨hout, -⟩ | ⟨hfirst, t', hcons, hnext⟩)
        · exact absurd hrange hout
        · -- If all other tokens are behind it, the token is the first one.
          have hnil : before = [] := by
            rw [List.length_append, List.length_cons] at hfirst
            unfold fromEnd at hfirst
            exact List.eq_nil_of_length_eq_zero (by omega)
          subst hnil
          obtain ⟨rfl, rfl⟩ := List.cons.inj hcons
          exact ⟨rfl, rfl, hnext⟩
  · have hfails : d.takeAt position tokens = .error ⟨tokens⟩ := by
      unfold takeAt
      rw [place?_eq_none_iff.2 hrange]
    rw [hfails, Except.error.injEq, PositionFault.mk.injEq]
    constructor
    · rintro rfl
      exact .inl ⟨hrange, rfl⟩
    · rintro (⟨-, rfl⟩ | ⟨rfl, t, rfl, -⟩)
      · rfl
      · rw [List.length_cons] at hrange
        omega

section Place

variable {tokens : List String} {i : Nat} (h : i < tokens.length)

include h

/-- The tokens are those before a place, the one there and those behind it. -/
theorem take_append_getElem_cons_drop :
    tokens.take i ++ tokens[i] :: tokens.drop (i + 1) = tokens := by
  rw [List.getElem_cons_drop, List.take_append_drop]

/-- The position of a place, counted from the end. -/
theorem fromEnd_drop : fromEnd (tokens.drop (i + 1)) = i - (tokens.length : Int) := by
  unfold fromEnd
  rw [List.length_drop]
  omega

/-- A claim that needs one token alone is the same from the start and from the end. -/
theorem takeAt_sub_length (hnot : ¬ d.TakesNext tokens[i]) :
    d.takeAt (i - (tokens.length : Int)) tokens = d.takeAt i tokens := by
  have htake : d.takeAt (fromEnd (tokens.drop (i + 1)))
      (tokens.take i ++ tokens[i] :: tokens.drop (i + 1)) = _ := takeAt_fromEnd hnot
  rwa [take_append_getElem_cons_drop h, List.length_take_of_le (Nat.le_of_lt h), fromEnd_drop h]
    at htake

/-- From the end, the value in the next token is the token before the option. -/
theorem takeAt_sub_length_of_takesNext (hnext : d.TakesNext tokens[i]) (hpos : 0 < i) :
    d.takeAt (i - (tokens.length : Int)) tokens =
      .ok { finding := .found tokens[i - 1]?
            tokens := tokens.take (i - 1) ++ tokens.drop (i + 1) } := by
  have hbefore : tokens.take (i - 1) ++ [tokens[i - 1]] = tokens.take i := by
    rw [List.take_append_getElem, Nat.sub_add_cancel hpos]
  have hwhole :
      tokens.take (i - 1) ++ tokens[i - 1] :: tokens[i] :: tokens.drop (i + 1) = tokens := by
    rw [List.append_cons, hbefore, take_append_getElem_cons_drop h]
  have htake : d.takeAt (fromEnd (tokens.drop (i + 1)))
      (tokens.take (i - 1) ++ tokens[i - 1] :: tokens[i] :: tokens.drop (i + 1)) = _ :=
    takeAt_fromEnd_of_takesNext hnext _ _
  rw [hwhole, fromEnd_drop h] at htake
  rw [htake, List.getElem?_eq_getElem]

end Place

/-- Trying a definition at any signed position of some tokens. It fails in two cases only. The
position is outside the tokens, which are left alone then; or it is that of the first token, counted
from the end, and the definition is an option that takes the next token for its value, and then the
option's token is gone. At any other position that counts from the end, such an option takes the
token before it for its value, and both go; in all other cases what is found and what is left are as
at the same place counted from the start. -/
theorem takeAt_signed (d : Definition) (tokens : List String) (position : Int) :
    (∀ left, d.takeAt position tokens = .error ⟨left⟩ ↔
      ¬ (-(tokens.length : Int) ≤ position ∧ position < tokens.length) ∧ left = tokens ∨
        position = -(tokens.length : Int) ∧ ∃ t, tokens = t :: left ∧ d.TakesNext t) ∧
    (∀ (i : Nat) (h : i < tokens.length), position = i - (tokens.length : Int) →
      (d.TakesNext tokens[i] → 0 < i → d.takeAt position tokens =
        .ok { finding := .found tokens[i - 1]?
              tokens := tokens.take (i - 1) ++ tokens.drop (i + 1) }) ∧
      (¬ d.TakesNext tokens[i] → d.takeAt position tokens = d.takeAt i tokens)) := by
  refine ⟨fun left => takeAt_eq_error_iff, ?_⟩
  rintro i h rfl
  exact ⟨takeAt_sub_length_of_takesNext h, takeAt_sub_length h⟩

/-- An option that is found in three ways. -/
def rangeOption : Definition where
  kind := .option
  name := "range"
  aliases := ["r"]
  facets := { equals := true, nextToken := true }
  name_ne := by decide
  alias_ne := by decide

/-- Of three spellings of an option, counted from the end, the last one takes the token before it
for its value, the second one has its own value, and the first one fails and is gone. -/
theorem takeAt_signed_range :
    rangeOption.TakesNext "-r" ∧
      rangeOption.takeAt (-1) ["--range", "-r=2", "-r"] =
        .ok { finding := .found (some "-r=2"), tokens := ["--range"] } ∧
      rangeOption.takeAt (-2) ["--range", "-r=2", "-r"] =
        .ok { finding := .found (some "2"), tokens := ["--range", "-r"] } ∧
      rangeOption.takeAt (-3) ["--range", "-r=2", "-r"] = .error ⟨["-r=2", "-r"]⟩ := by
  have hnext : rangeOption.TakesNext "-r" := ⟨rfl, _, rfl, rfl⟩
  have hnot : ¬ rangeOption.TakesNext "-r=2" := by
    rw [takesNext_iff]
    decide
  have hfirst : rangeOption.TakesNext "--range" := ⟨rfl, _, rfl, rfl⟩
  obtain ⟨-, hlast⟩ := takeAt_signed rangeOption ["--range", "-r=2", "-r"] (-1)
  obtain ⟨-, hsecond⟩ := takeAt_signed rangeOption ["--range", "-r=2", "-r"] (-2)
  obtain ⟨hfails, -⟩ := takeAt_signed rangeOption ["--range", "-r=2", "-r"] (-3)
  refine ⟨hnext, (hlast 2 (by decide) rfl).1 hnext (by decide), ?_, ?_⟩
  · rw [(hsecond 1 (by decide) rfl).2 hnot]
    rfl
  · exact (hfails _).2 (.inr ⟨rfl, "--range", rfl, hfirst⟩)

end Definition

end ArgScan
