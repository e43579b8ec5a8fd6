import ArgScan.Proofs.Fitting
import ArgScan.Proofs.Joining
import ArgScan.Proofs.Order

/-!
# Definitions that claim the same tokens

Two definitions of a batch can claim the same token, and the first of them takes it. This module is
about the two extremes.

At one of them no token is claimed twice. What stands behind a name in a token begins with an equals
sign, or is empty, unless an option lets its value follow at once. So the name that fits is the body
up to its first equals sign (`Definition.Fits.toList_eq_takeWhile`), and definitions that share no
name claim no token in common (`isUnambiguous_of_distinct_names`).

At the other one all that a definition claims is claimed before it (`IsShadowedBy`), for instance by
an option that takes the rest of a name for its value (`Covers`). Such a definition never takes a
token. The batch without it has the same claimants at positions that correspond
(`claimant?_append_of_isShadowedBy`), hence the same reading, and a scan finds the same
(`scan_append_cons_shadowed`).
-/

namespace ArgScan

/-! ## Tokens that are claimed once -/

/-- A name without an equals sign that fits a token is its body up to the first equals sign, if no
value stands behind the name at once. -/
theorem Definition.Fits.toList_eq_takeWhile {d : Definition} {name token : String}
    {ending : List Char} (h : d.Fits name token ending) (hname : '=' ∉ name.toList)
    (hattached : d.kind = .option → d.facets.attached = false) :
    name.toList = (token.toList.drop (hyphenCount token)).takeWhile (· ≠ '=') := by
  rw [h.body, h.ending.takeWhile_append hname hattached]

/-- If no two definitions of a batch share a name, no name has an equals sign, and no option lets
its value follow its name at once, then every token is claimed by at most one of them. -/
theorem isUnambiguous_of_distinct_names (ds : List Definition)
    (hnames : ∀ i j : Fin ds.length, i ≠ j → ∀ name ∈ (ds.get i).names, name ∉ (ds.get j).names)
    (hequals : ∀ d ∈ ds, ∀ name ∈ d.names, '=' ∉ name.toList)
    (hattached : ∀ d ∈ ds, d.kind = .option → d.facets.attached = false) (token : String) :
    IsUnambiguous ds token := by
  intro i j hi hj
  obtain ⟨n, hn, _, hfits⟩ := Definition.claims_iff_exists_fits.1 hi
  obtain ⟨m, hm, _, hfits'⟩ := Definition.claims_iff_exists_fits.1 hj
  have hmem : ∀ k : Fin ds.length, ds.get k ∈ ds := ds.get_mem
  -- Both names are the same part of the body.
  have hname : n = m := String.toList_injective <| by
    rw [hfits.toList_eq_takeWhile (hequals _ (hmem i) n hn) (hattached _ (hmem i)),
      hfits'.toList_eq_takeWhile (hequals _ (hmem j) m hm) (hattached _ (hmem j))]
  by_contra hne
  exact hnames i j hne n hn (hname ▸ hm)

/-- Names that begin each other, of a flag and two options with different spellings. -/
def nestedNames : List Definition :=
  [{ kind := .option, name := "in", aliases := ["i"]
     facets := { singleHyphen := true, equals := true }
     name_ne := by decide, alias_ne := by decide },
   { kind := .flag, name := "inp", aliases := ["-in"]
     facets := { singleHyphen := true, doubleHyphen := true }
     name_ne := by decide, alias_ne := by decide },
   { kind := .option, name := "input", aliases := ["inpu", "inpu"], facets := .none
     name_ne := by decide, alias_ne := by decide }]

/-- Of the three definitions only the first claims the token, although its body begins with names of
the others. -/
theorem isUnambiguous_of_distinct_names_nested :
    (∀ i j : Fin nestedNames.length, i ≠ j →
        ∀ name ∈ (nestedNames.get i).names, name ∉ (nestedNames.get j).names) ∧
      (∀ d ∈ nestedNames, ∀ name ∈ d.names, '=' ∉ name.toList) ∧
      (∀ d ∈ nestedNames, d.kind = .option → d.facets.attached = false) ∧
      IsUnambiguous nestedNames "-in=input" ∧ nestedNames[0].claims "-in=input" = true := by
  have hnames : ∀ i j : Fin nestedNames.length, i ≠ j →
      ∀ name ∈ (nestedNames.get i).names, name ∉ (nestedNames.get j).names := by decide
  have hequals : ∀ d ∈ nestedNames, ∀ name ∈ d.names, '=' ∉ name.toList := by decide
  have hattached : ∀ d ∈ nestedNames, d.kind = .option → d.facets.attached = false := by decide
  exact ⟨hnames, hequals, hattached,
    isUnambiguous_of_distinct_names nestedNames hnames hequals hattached "-in=input", by decide⟩

/-! ## Tokens that are claimed before -/

/-- Every token that the definition claims is claimed by one of the earlier definitions. -/
def Definition.IsShadowedBy (d : Definition) (earlier : List Definition) : Prop :=
  ∀ token, d.claims token = true → ∃ e ∈ earlier, e.claims token = true

/-- An option takes all tokens of another definition for itself: its value follows at once behind a
name with which all names of the other begin, and the hyphens are set, at least as for the other.
-/
structure Definition.Covers (e d : Definition) : Prop where
  /-- It is an option. -/
  kind_eq : e.kind = .option
  /-- Its value follows at once. -/
  attached : e.facets.attached = true
  /-- One of its names begins all names of the other. -/
  exists_name : ∃ m ∈ e.names, ∀ n ∈ d.names, m.toList <+: n.toList
  /-- The hyphens of the other are set. -/
  hyphens : d.facets.singleHyphen = true ∨ d.facets.doubleHyphen = true
  /-- It sets one hyphen if the other does. -/
  single : d.facets.singleHyphen = true → e.facets.singleHyphen = true
  /-- It sets two hyphens if the other does. -/
  double : d.facets.doubleHyphen = true → e.facets.doubleHyphen = true

/-- The hyphens before a name of the other definition may stand before any name of the covering one.
-/
theorem Definition.Covers.allowsHyphens {e d : Definition} (h : e.Covers d) {n : String}
    {count : Nat} (hcount : d.facets.AllowsHyphens n count) (m : String) :
    e.facets.AllowsHyphens m count := by
  cases hcount with
  | single hs => exact .single (h.single hs)
  | double hd => exact .double (h.double hd)
  | short hs hd => exact absurd h.hyphens (by simp [hs, hd])
  | long hs hd => exact absurd h.hyphens (by simp [hs, hd])

/-- A covering option claims what the other definition claims. -/
theorem Definition.Covers.claims {e d : Definition} (h : e.Covers d) {token : String}
    (hclaims : d.claims token = true) : e.claims token = true := by
  obtain ⟨n, hn, ending, hfits⟩ := claims_iff_exists_fits.1 hclaims
  obtain ⟨m, hm, hbegins⟩ := h.exists_name
  obtain ⟨rest, hrest⟩ := hbegins n hn
  refine claims_iff_exists_fits.2 ⟨m, hm, rest ++ ending, h.allowsHyphens hfits.hyphens m, ?_, ?_⟩
  · rw [hfits.body, ← hrest, List.append_assoc]
  · exact .attached _ h.kind_eq h.attached

/-- A repeated definition is shadowed, and so is one that an earlier option covers. -/
theorem Definition.isShadowedBy_of_mem {d e : Definition} {earlier : List Definition}
    (he : e ∈ earlier) (h : e = d ∨ e.Covers d) : d.IsShadowedBy earlier := by
  intro token hclaims
  rcases h with rfl | hcovers
  · exact ⟨e, he, hclaims⟩
  · exact ⟨e, he, hcovers.claims hclaims⟩

variable {ds₁ ds₂ : List Definition} {d : Definition}

/-- The position of a definition in a batch without the one at the given position. -/
def withoutPosition (removed i : Nat) : Nat := if i < removed then i else i - 1

/-- Positions other than the removed one stay apart. -/
theorem eq_of_withoutPosition_eq {removed i j : Nat} (hi : i ≠ removed) (hj : j ≠ removed)
    (h : withoutPosition removed i = withoutPosition removed j) : i = j := by
  unfold withoutPosition at h
  split_ifs at h <;> omega

/-- Without a shadowed definition the claimants are the same, at their new positions. -/
theorem claimant?_append_of_isShadowedBy (h : d.IsShadowedBy ds₁) (t : String) :
    claimant? (ds₁ ++ ds₂) t =
      (claimant? (ds₁ ++ d :: ds₂) t).map fun (i, c) => (withoutPosition ds₁.length i, c) := by
  rw [claimant?_append, claimant?_append]
  cases hc : claimant? ds₁ t with
  | some found =>
    obtain ⟨i, c⟩ := found
    obtain ⟨⟨e, he, -⟩, -⟩ := (claimant?_eq_some_iff ds₁ t i c).1 hc
    have hi : i < ds₁.length := (List.getElem?_eq_some_iff.1 he).1
    simp only [Option.some_or, Option.map_some, withoutPosition, if_pos hi]
  | none =>
    -- No earlier definition claims the token, so this one does not either.
    have hd : d.claim? t = none := by
      rw [← d.claims_eq_false_iff, ← Bool.not_eq_true]
      intro hclaims
      obtain ⟨e, he, hclaims'⟩ := h t hclaims
      rw [(claimant?_eq_none_iff ds₁ t).1 hc e he] at hclaims'
      contradiction
    rw [claimant?_cons_of_none ds₂ hd, Option.none_or, Option.none_or, Option.map_map,
      Option.map_map]
    congr 1
    funext found
    have hnew : withoutPosition ds₁.length (ds₁.length + (found.1 + 1)) = ds₁.length + found.1 := by
      unfold withoutPosition
      split_ifs <;> omega
    exact Prod.ext hnew.symm rfl

/-- A shadowed definition takes no token. -/
theorem owner_ne_of_isShadowedBy (h : d.IsShadowedBy ds₁) {ts : List String} {owner : Nat}
    {head : String} {k : Taking} (hmem : .taken owner head k ∈ reading (ds₁ ++ d :: ds₂) ts) :
    owner ≠ ds₁.length := by
  rintro rfl
  obtain ⟨-, c, hc⟩ := claimant?_of_taken_mem hmem
  obtain ⟨⟨d', hd', hclaim⟩, hnone⟩ := (claimant?_eq_some_iff _ head _ c).1 hc
  rw [List.getElem?_append_right (Nat.le_refl _), Nat.sub_self, List.getElem?_cons_zero,
    Option.some.injEq] at hd'
  subst hd'
  rw [List.take_left] at hnone
  have hclaims : d.claims head = true := by rw [d.claims_eq_isSome, hclaim]; rfl
  obtain ⟨e, he, hclaims'⟩ := h head hclaims
  rw [hnone e he] at hclaims'
  contradiction

/-- Without a shadowed definition the reading is the same, with the owners at their new positions.
-/
theorem reading_append_of_isShadowedBy (h : d.IsShadowedBy ds₁) (ts : List String) :
    reading (ds₁ ++ ds₂) ts =
      (reading (ds₁ ++ d :: ds₂) ts).map (Part.reown (withoutPosition ds₁.length)) :=
  reading_eq_map_reown fun t _ => claimant?_append_of_isShadowedBy h t

/-- Without a shadowed definition the same is found for each of the others. -/
theorem lastFinding_append_of_isShadowedBy (h : d.IsShadowedBy ds₁) (ts : List String) (i : Nat)
    (hi : i ≠ ds₁.length) :
    lastFinding (reading (ds₁ ++ ds₂) ts) (withoutPosition ds₁.length i) =
      lastFinding (reading (ds₁ ++ d :: ds₂) ts) i := by
  rw [reading_append_of_isShadowedBy h]
  apply lastFinding_map_reown
  intro owner head k hmem howner
  exact eq_of_withoutPosition_eq (owner_ne_of_isShadowedBy h hmem) hi howner

/-- A repeated definition is shadowed, and so is one that an earlier option covers. For a shadowed
definition a scan finds nothing in any tokens, and a scan without it finds the same for all others
and leaves the same tokens. -/
theorem scan_append_cons_shadowed (ds₁ ds₂ : List Definition) (d : Definition) :
    (∀ e ∈ ds₁, e = d ∨ e.Covers d → d.IsShadowedBy ds₁) ∧
      (d.IsShadowedBy ds₁ → ∀ ts, ∃ s s' found₁ found₂, scan (ds₁ ++ d :: ds₂) ts = .ok s ∧
        scan (ds₁ ++ ds₂) ts = .ok s' ∧ found₁.length = ds₁.length ∧
        s.findings = found₁ ++ .absent :: found₂ ∧ s'.findings = found₁ ++ found₂ ∧
        s'.tokens = s.tokens) := by
  refine ⟨fun e he h => Definition.isShadowedBy_of_mem he h, fun h ts => ?_⟩
  obtain ⟨s, hs, htokens, hfindings⟩ := exists_scan_eq_ok (ds₁ ++ d :: ds₂) ts
  obtain ⟨s', hs', htokens', hfindings'⟩ := exists_scan_eq_ok (ds₁ ++ ds₂) ts
  have habsent : lastFinding (reading (ds₁ ++ d :: ds₂) ts) ds₁.length = .absent :=
    lastFinding_eq_absent fun head k hmem => owner_ne_of_isShadowedBy h hmem rfl
  refine ⟨s, s', (List.range ds₁.length).map (lastFinding (reading (ds₁ ++ d :: ds₂) ts)),
    (List.range ds₂.length).map fun i =>
      lastFinding (reading (ds₁ ++ d :: ds₂) ts) (ds₁.length + (i + 1)), hs, hs', ?_, ?_, ?_, ?_⟩
  · rw [List.length_map, List.length_range]
  · rw [hfindings, List.length_append, List.length_cons, List.range_add, List.map_append,
      List.range_succ_eq_map, List.map_cons, List.map_cons, List.map_map, List.map_map,
      Nat.add_zero, habsent]
    rfl
  · rw [hfindings', List.length_append, List.range_add, List.map_append, List.map_map]
    congr 1
    · apply List.map_congr_left
      intro i hi
      have hlt : i < ds₁.length := List.mem_range.1 hi
      rw [← lastFinding_append_of_isShadowedBy h ts i hlt.ne, withoutPosition, if_pos hlt]
    · apply List.map_congr_left
      intro i _
      rw [← lastFinding_append_of_isShadowedBy h ts (ds₁.length + (i + 1)) (by omega),
        withoutPosition, if_neg (by omega)]
      rfl
  · rw [htokens', htokens, reading_append_of_isShadowedBy h, keptTokens_map_reown]

/-- An option whose value follows at once behind a short name. -/
def greedyOption : Definition where
  kind := .option
  name := "w"
  aliases := ["wait"]
  facets := { singleHyphen := true, doubleHyphen := true, attached := true }
  name_ne := by decide
  alias_ne := by decide

/-- An option whose names begin with that short one. -/
def coveredOption : Definition where
  kind := .option
  name := "width"
  aliases := ["wide"]
  facets := { singleHyphen := true, equals := true, nextToken := true }
  name_ne := by decide
  alias_ne := by decide

/-- A flag. -/
def helpFlag : Definition where
  kind := .flag
  name := "h"
  aliases := ["help"]
  facets := .none
  name_ne := by decide
  alias_ne := by decide

/-- The first option takes the ends of the second one's names for its values, and the token that the
second one would take for its value is a flag. -/
theorem scan_append_cons_shadowed_covered :
    greedyOption.Covers coveredOption ∧ coveredOption.IsShadowedBy [greedyOption] ∧
      ∃ s s',
        scan [greedyOption, coveredOption, helpFlag] ["-wide", "-h", "x", "-width=1"] = .ok s ∧
        scan [greedyOption, helpFlag] ["-wide", "-h", "x", "-width=1"] = .ok s' ∧
        s.findings = [.found (some "idth=1"), .absent, .flag] ∧
        s'.findings = [.found (some "idth=1"), .flag] ∧ s'.tokens = ["x"] := by
  have hcovers : greedyOption.Covers coveredOption :=
    ⟨rfl, rfl, ⟨"w", by decide, by decide⟩, .inl rfl, fun _ => rfl, fun _ => rfl⟩
  obtain ⟨hshadowed, hscan⟩ :=
    scan_append_cons_shadowed [greedyOption] [helpFlag] coveredOption
  have hcovered := hshadowed greedyOption List.mem_cons_self (.inr hcovers)
  obtain ⟨s, s', found₁, found₂, hs, hs', hlength, hfindings, hfindings', htokens⟩ :=
    hscan hcovered ["-wide", "-h", "x", "-width=1"]
  obtain rfl : _ = s := Except.ok.inj hs
  -- The findings before and behind the second option are those of the first scan.
  obtain ⟨f, rfl⟩ := List.length_eq_one_iff.1 hlength
  obtain ⟨rfl, rfl⟩ : .found (some "idth=1") = f ∧ [.flag] = found₂ := by
    have hcons : [.found (some "idth=1"), .absent, .flag] = [f] ++ .absent :: found₂ := hfindings
    simpa using hcons
  exact ⟨hcovers, hcovered, _, s', hs, hs', rfl, hfindings', htokens⟩

end ArgScan
