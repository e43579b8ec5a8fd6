import ArgScan.Proofs.Order
import Mathlib.Data.List.Forall2

/-!
# The names of a definition

A definition tries its names in order, and the first that fits a token decides how the token is
taken. The order can only matter if two names fit the same token. Two names of a flag that fit are
equal, since each is the whole body of the token. Two names of an option may differ if one of them
lets its value follow at once, or ends at another equals sign. Where neither can happen
(`IsDelimited`), a name that fits is the body up to its first equals sign
(`toList_eq_takeWhile_of_fit?`), so that the names can be taken as a set: how the definition takes a
token depends on whether some name fits, and on nothing else (`claim?_eq_some_iff_of_isDelimited`).

So definitions that differ in nothing but the order of their names take every token alike, and a
scan finds the same for a batch of them (`scan_of_sameNames`).
-/

namespace ArgScan

namespace Definition

/-- The definitions have the same kind, the same facets and the same set of names. Which name is
used for writing may differ, and so may the order of the names. -/
structure SameNames (d e : Definition) : Prop where
  /-- They are of the same kind. -/
  kind_eq : d.kind = e.kind
  /-- They have the same facets. -/
  facets_eq : d.facets = e.facets
  /-- They have the same names. -/
  mem_names_iff : ∀ n, n ∈ d.names ↔ n ∈ e.names

/-- The end of a name can be told in every token: an option has no value behind its name at once,
and none of its names has an equals sign. -/
def IsDelimited (d : Definition) : Prop :=
  d.kind = .option → d.facets.attached = false ∧ ∀ n ∈ d.names, '=' ∉ n.toList

instance (d : Definition) : Decidable d.IsDelimited :=
  inferInstanceAs (Decidable (_ → _))

/-! ## Where a name ends -/

variable {d e : Definition}

/-- A name of a delimited option that fits is the body of the token up to the first equals sign. -/
theorem toList_eq_takeWhile_of_fit? (hd : d.IsDelimited) (hkind : d.kind = .option) {n : String}
    (hn : n ∈ d.names) {hyphens : Nat} {body : List Char} {c : Claim}
    (h : d.fit? hyphens body n = some c) : n.toList = body.takeWhile (· ≠ '=') := by
  obtain ⟨ha, hequals⟩ := hd hkind
  obtain ⟨-, ending, rfl, hreads⟩ := fit?_eq_some_iff.1 h
  rw [hreads.allowsEnding.takeWhile_append (hequals n hn) fun _ => ha]

/-- All names of a delimited definition that fit a token take it in the same way. -/
theorem claim_eq_of_fit? (hd : d.IsDelimited) {hyphens : Nat} {body : List Char} {n m : String}
    {c c' : Claim} (hn : n ∈ d.names) (hm : m ∈ d.names) (hfit : d.fit? hyphens body n = some c)
    (hfit' : d.fit? hyphens body m = some c') : c = c' := by
  cases hkind : d.kind with
  | flag =>
    obtain ⟨-, _, -, hreads⟩ := fit?_eq_some_iff.1 hfit
    obtain ⟨-, _, -, hreads'⟩ := fit?_eq_some_iff.1 hfit'
    rw [hreads.eq_flag hkind, hreads'.eq_flag hkind]
  | option =>
    -- Two names that fit are the same part of the body.
    have hname : n = m := String.toList_injective <| by
      rw [toList_eq_takeWhile_of_fit? hd hkind hn hfit,
        toList_eq_takeWhile_of_fit? hd hkind hm hfit']
    rw [hname, hfit'] at hfit
    exact (Option.some.inj hfit).symm

/-! ## Names as a set -/

/-- A delimited definition takes a token in the way in which one of its names fits, whichever. -/
theorem claim?_eq_some_iff_of_isDelimited (hd : d.IsDelimited) (t : String) (c : Claim) :
    d.claim? t = some c ↔
      ∃ n ∈ d.names, d.fit? (hyphenCount t) (t.toList.drop (hyphenCount t)) n = some c := by
  rw [claim?_eq_findSome?]
  constructor
  · exact List.exists_of_findSome?_eq_some
  · rintro ⟨n, hn, hfit⟩
    -- The first name that fits need not be this one, but it fits in the same way.
    obtain ⟨c', hc'⟩ := Option.isSome_iff_exists.1
      (List.findSome?_isSome_iff.2 ⟨n, hn, Option.isSome_of_eq_some hfit⟩)
    obtain ⟨m, hm, hfit'⟩ := List.exists_of_findSome?_eq_some hc'
    rw [hc', claim_eq_of_fit? hd hn hm hfit hfit']

/-- How a name fits depends on the kind and the facets only. -/
theorem SameNames.fit?_eq (h : d.SameNames e) (hyphens : Nat) (body : List Char) (n : String) :
    e.fit? hyphens body n = d.fit? hyphens body n := by
  unfold fit?
  rw [h.kind_eq, h.facets_eq]

/-- Other names in the same set are delimited as well. -/
theorem SameNames.isDelimited (h : d.SameNames e) (hd : d.IsDelimited) : e.IsDelimited := by
  intro hkind
  obtain ⟨ha, hequals⟩ := hd (h.kind_eq.trans hkind)
  exact ⟨h.facets_eq ▸ ha, fun n hn => hequals n ((h.mem_names_iff n).2 hn)⟩

/-- Delimited definitions with the same names take every token alike. -/
theorem SameNames.claim?_eq (h : d.SameNames e) (hd : d.IsDelimited) (t : String) :
    e.claim? t = d.claim? t := by
  apply Option.ext
  intro c
  rw [claim?_eq_some_iff_of_isDelimited hd, claim?_eq_some_iff_of_isDelimited (h.isDelimited hd)]
  simp only [h.fit?_eq, h.mem_names_iff]

end Definition

/-! ## Batches -/

variable {ds es : List Definition}

/-- Batches whose definitions take a token alike have the same claimant of it. -/
theorem claimant?_congr {t : String} (h : List.Forall₂ (fun d e => e.claim? t = d.claim? t) ds es) :
    claimant? es t = claimant? ds t := by
  induction h with
  | nil => rfl
  | @cons d e ds es hclaim _ ih =>
    cases hd : d.claim? t with
    | none =>
      rw [claimant?_cons_of_none ds hd, claimant?_cons_of_none es (hclaim.trans hd), ih]
    | some c =>
      rw [claimant?_cons_of_some ds hd, claimant?_cons_of_some es (hclaim.trans hd)]

/-- Batches with the same claimant of each token have the same reading. -/
theorem reading_congr {ts : List String} (h : ∀ t ∈ ts, claimant? es t = claimant? ds t) :
    reading es ts = reading ds ts := by
  have hid : Part.reown id = id := by
    funext part
    cases part <;> rfl
  have hread : reading es ts = (reading ds ts).map (Part.reown id) := by
    apply reading_eq_map_reown
    intro t ht
    rw [h t ht]
    exact Option.map_id'.symm
  rw [hread, hid, List.map_id]

/-- Two batches whose definitions differ only in the order of their names, and in which the end of
every name can be told, are scanned for with the same findings and the same tokens left. -/
theorem scan_of_sameNames (ds es : List Definition) (h : List.Forall₂ Definition.SameNames ds es)
    (hdelimited : ∀ d ∈ ds, d.kind = .option →
      d.facets.attached = false ∧ ∀ n ∈ d.names, '=' ∉ n.toList) (ts : List String) :
    ∃ s s', scan ds ts = .ok s ∧ scan es ts = .ok s' ∧
      s'.findings = s.findings ∧ s'.tokens = s.tokens := by
  have hread : reading es ts = reading ds ts := by
    apply reading_congr
    intro t _
    apply claimant?_congr
    rw [List.forall₂_iff_get] at h ⊢
    exact ⟨h.1, fun i hi hi' => (h.2 i hi hi').claim?_eq (hdelimited _ (List.get_mem ds ⟨i, hi⟩)) t⟩
  obtain ⟨s, hs, htokens, hfindings⟩ := exists_scan_eq_ok ds ts
  obtain ⟨s', hs', htokens', hfindings'⟩ := exists_scan_eq_ok es ts
  refine ⟨s, s', hs, hs', ?_, ?_⟩
  · rw [hfindings, hfindings', hread, h.length_eq]
  · rw [htokens, htokens', hread]

/-- An option and a flag whose longer names begin with the shorter ones. -/
def longNamesFirst : List Definition :=
  [{ kind := .option, name := "output", aliases := ["out", "o"]
     facets := { equals := true, nextToken := true }
     name_ne := by decide, alias_ne := by decide },
   { kind := .flag, name := "quiet", aliases := ["q"], facets := .none
     name_ne := by decide, alias_ne := by decide }]

/-- The same with the shorter names first. -/
def shortNamesFirst : List Definition :=
  [{ kind := .option, name := "o", aliases := ["out", "output", "o"]
     facets := { equals := true, nextToken := true }
     name_ne := by decide, alias_ne := by decide },
   { kind := .flag, name := "q", aliases := ["quiet"], facets := .none
     name_ne := by decide, alias_ne := by decide }]

/-- The short name begins the long one, and the value is found all the same. -/
theorem scan_of_sameNames_short_first :
    List.Forall₂ Definition.SameNames longNamesFirst shortNamesFirst ∧
      (∀ d ∈ longNamesFirst, d.kind = .option →
        d.facets.attached = false ∧ ∀ n ∈ d.names, '=' ∉ n.toList) ∧
      ∃ s s', scan longNamesFirst ["-o", "-q", "--quiet", "file", "--output=a=b"] = .ok s ∧
        scan shortNamesFirst ["-o", "-q", "--quiet", "file", "--output=a=b"] = .ok s' ∧
        s.findings = [.found (some "a=b"), .flag] ∧ s'.findings = s.findings ∧
        s'.tokens = s.tokens := by
  have hsame : List.Forall₂ Definition.SameNames longNamesFirst shortNamesFirst := by
    refine .cons ⟨rfl, rfl, ?_⟩ (.cons ⟨rfl, rfl, ?_⟩ .nil)
    · intro n
      simp only [Definition.names, List.mem_cons, List.not_mem_nil]
      tauto
    · intro n
      simp only [Definition.names, List.mem_cons, List.not_mem_nil]
      tauto
  have hdelimited : ∀ d ∈ longNamesFirst, d.kind = .option →
      d.facets.attached = false ∧ ∀ n ∈ d.names, '=' ∉ n.toList := by decide
  obtain ⟨s, s', hs, hs', hfindings, htokens⟩ := scan_of_sameNames longNamesFirst shortNamesFirst
    hsame hdelimited ["-o", "-q", "--quiet", "file", "--output=a=b"]
  obtain rfl : _ = s := Except.ok.inj hs
  exact ⟨hsame, hdelimited, _, s', hs, hs', rfl, hfindings, htokens⟩

end ArgScan
