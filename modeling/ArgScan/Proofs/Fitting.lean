import ArgScan.Proofs.Claims
import Mathlib.Data.List.Basic
import Mathlib.Tactic.SplitIfs

/-!
# Names that fit a token

A definition takes a token apart and tries its names one after another. What it recognises in this
way is a grammar, and it can be said without the trying. A name fits a token (`Definition.Fits`) if
the token's hyphens may stand before the name and its body is the name with an ending that the
definition allows. The token is claimed exactly if some name fits (`claims_iff_exists_fits`).

What is taken depends on two orders. Of several names that fit, the first one decides
(`FirstFits`); and its ending is read as a value behind an equals sign before it is read as the end
of the token, and as that before it is read as a value at once (`Reads`). The definition's `claim?`
is both together (`claim?_eq_some_iff_firstFits`), so `takeAt_of_lt` can say what trying the
definition at any position of any tokens gives, and which tokens are left.
-/

namespace ArgScan

/-! ## The grammar -/

/-- The numbers of hyphens that may stand before a name. -/
inductive Facets.AllowsHyphens (f : Facets) (name : String) : Nat → Prop
  /-- One where that facet is set. -/
  | single : f.singleHyphen = true → AllowsHyphens f name 1
  /-- Two where that facet is set. -/
  | double : f.doubleHyphen = true → AllowsHyphens f name 2
  /-- One before a single character where neither is set. -/
  | short : f.singleHyphen = false → f.doubleHyphen = false → name.length = 1 →
    AllowsHyphens f name 1
  /-- Two before any other name where neither is set. -/
  | long : f.singleHyphen = false → f.doubleHyphen = false → name.length ≠ 1 →
    AllowsHyphens f name 2

/-- The value of a bare name is the next token: that facet is set, or no value facet is. -/
def Facets.ReadsNextToken (f : Facets) : Prop :=
  f.nextToken = true ∨ f.attached = false ∧ f.equals = false ∧ f.nextToken = false

namespace Definition

/-- The texts that may stand behind a name in a token. -/
inductive AllowsEnding (d : Definition) : List Char → Prop
  /-- Nothing, behind the name of a flag. -/
  | flag : d.kind = .flag → AllowsEnding d []
  /-- An equals sign and any text where that facet is set. -/
  | equals (cs : List Char) : d.kind = .option → d.facets.equals = true → AllowsEnding d ('=' :: cs)
  /-- Nothing where the value is the next token. -/
  | bare : d.kind = .option → d.facets.ReadsNextToken → AllowsEnding d []
  /-- Any text where that facet is set. -/
  | attached (cs : List Char) : d.kind = .option → d.facets.attached = true → AllowsEnding d cs

/-- A name fits a token, with an ending behind it. -/
structure Fits (d : Definition) (name token : String) (ending : List Char) : Prop where
  /-- The hyphens of the token may stand before the name. -/
  hyphens : d.facets.AllowsHyphens name (hyphenCount token)
  /-- Behind the hyphens stand the name and the ending. -/
  body : token.toList.drop (hyphenCount token) = name.toList ++ ending
  /-- The ending is one that the definition allows. -/
  ending : d.AllowsEnding ending

/-- The first of the definition's names that fit a token, with the ending behind it. -/
def FirstFits (d : Definition) (name token : String) (ending : List Char) : Prop :=
  ∃ earlier later, d.names = earlier ++ name :: later ∧
    (∀ n ∈ earlier, ∀ e, ¬ d.Fits n token e) ∧ d.Fits name token ending

/-- How an ending is read. An equals sign comes before the end of the token, and that before a value
at once. -/
inductive Reads (d : Definition) : List Char → Claim → Prop
  /-- A flag's name is the whole token. -/
  | flag : d.kind = .flag → Reads d [] .flag
  /-- The value is the text behind the equals sign. -/
  | equals (cs : List Char) : d.kind = .option → d.facets.equals = true →
    Reads d ('=' :: cs) (.inline (String.ofList cs))
  /-- The value is the next token. -/
  | next : d.kind = .option → d.facets.ReadsNextToken → Reads d [] .next
  /-- The value is all of the ending. -/
  | attached (cs : List Char) : d.kind = .option → d.facets.attached = true →
    ¬ (cs.head? = some '=' ∧ d.facets.equals = true) → ¬ (cs = [] ∧ d.facets.ReadsNextToken) →
    Reads d cs (.inline (String.ofList cs))

end Definition

/-- The finding that a claim gives when a token follows or none does. -/
def Claim.finding (next? : Option String) : Claim → Finding
  | flag => .flag
  | inline value => .found (some value)
  | next => .found next?

/-- The number of tokens that a claim takes where there are as many. -/
def Claim.size : Claim → Nat
  | next => 2
  | _ => 1

/-! ## Hyphens and endings -/

/-- The hyphens that are accepted are those that the facets allow. -/
theorem Facets.acceptsHyphens_eq_true_iff (f : Facets) (count : Nat) (name : String) :
    f.acceptsHyphens count name = true ↔ f.AllowsHyphens name count := by
  unfold acceptsHyphens inferredHyphens
  constructor
  · intro h
    split_ifs at h with hset hlength
    · rw [Bool.or_eq_true, Bool.and_eq_true, Bool.and_eq_true, beq_iff_eq, beq_iff_eq] at h
      obtain ⟨rfl, hsingle⟩ | ⟨rfl, hdouble⟩ := h
      · exact .single hsingle
      · exact .double hdouble
    · rw [Bool.or_eq_true, not_or, Bool.not_eq_true, Bool.not_eq_true] at hset
      obtain rfl := beq_iff_eq.1 h
      exact .short hset.1 hset.2 hlength
    · rw [Bool.or_eq_true, not_or, Bool.not_eq_true, Bool.not_eq_true] at hset
      obtain rfl := beq_iff_eq.1 h
      exact .long hset.1 hset.2 hlength
  · rintro (h | h | ⟨hsingle, hdouble, h⟩ | ⟨hsingle, hdouble, h⟩)
    · simp [h]
    · simp [h]
    · simp [hsingle, hdouble, h]
    · simp [hsingle, hdouble, h]

/-- No name is accepted without a hyphen before it. -/
theorem Facets.AllowsHyphens.ne_zero {f : Facets} {name : String} {count : Nat}
    (h : f.AllowsHyphens name count) : count ≠ 0 := by
  cases h <;> exact Nat.succ_ne_zero _

/-- The next token is allowed for the value where it is the value of a bare name. -/
theorem Facets.allowsNextToken_eq_true_iff (f : Facets) :
    f.allowsNextToken = true ↔ f.ReadsNextToken := by
  unfold allowsNextToken ReadsNextToken
  cases f.nextToken <;> simp

/-- An equals sign gives the value if that facet is set. -/
theorem Facets.separatorFor_equals {f : Facets} (h : f.equals = true) (cs : List Char) :
    f.separatorFor ('=' :: cs) = some .equals := by
  unfold separatorFor
  rw [if_pos ⟨rfl, h⟩]

/-- A bare name takes the next token for its value if that is allowed. -/
theorem Facets.separatorFor_nil {f : Facets} (h : f.allowsNextToken = true) :
    f.separatorFor [] = some .nextToken := by
  unfold separatorFor
  rw [if_neg (by simp), if_pos ⟨rfl, h⟩]

/-- A value stands behind the name at once where that facet is set and nothing else comes first. -/
theorem Facets.separatorFor_of_attached {f : Facets} (ha : f.attached = true) {cs : List Char}
    (hequals : ¬ (cs.head? = some '=' ∧ f.equals = true))
    (hnext : ¬ (cs = [] ∧ f.allowsNextToken = true)) : f.separatorFor cs = some .attached := by
  unfold separatorFor
  rw [if_neg hequals, if_neg hnext, if_pos ha]

/-- Characters of a kind that reach up to one of another kind, or to the end, are all that stand
before it. -/
theorem takeWhile_append_of_head? {p : Char → Bool} {cs rest : List Char}
    (hcs : ∀ c ∈ cs, p c = true) (hrest : ∀ c, rest.head? = some c → p c = false) :
    (cs ++ rest).takeWhile p = cs := by
  have hstop : rest.takeWhile p = [] := by
    cases rest with
    | nil => rfl
    | cons c rest =>
      apply List.takeWhile_cons_of_neg
      rw [hrest c rfl]
      exact Bool.false_ne_true
  rw [List.takeWhile_append_of_pos hcs, hstop, List.append_nil]

namespace Definition

variable {d : Definition} {name token : String} {ending : List Char} {c : Claim}

/-- An ending is allowed exactly if it can be read. -/
theorem allowsEnding_iff_exists_reads : d.AllowsEnding ending ↔ ∃ c, d.Reads ending c := by
  constructor
  · rintro (hkind | ⟨cs, hkind, he⟩ | ⟨hkind, hn⟩ | ⟨_, hkind, ha⟩)
    · exact ⟨_, .flag hkind⟩
    · exact ⟨_, .equals cs hkind he⟩
    · exact ⟨_, .next hkind hn⟩
    · -- An ending that is allowed as a value at once may be read in another way.
      by_cases hequals : ending.head? = some '=' ∧ d.facets.equals = true
      · obtain ⟨cs, rfl⟩ := List.head?_eq_some_iff.1 hequals.1
        exact ⟨_, .equals cs hkind hequals.2⟩
      · by_cases hnext : ending = [] ∧ d.facets.ReadsNextToken
        · obtain ⟨rfl, hn⟩ := hnext
          exact ⟨_, .next hkind hn⟩
        · exact ⟨_, .attached ending hkind ha hequals hnext⟩
  · rintro ⟨c, hkind | ⟨cs, hkind, he⟩ | ⟨hkind, hn⟩ | ⟨_, hkind, ha, -, -⟩⟩
    · exact .flag hkind
    · exact .equals cs hkind he
    · exact .bare hkind hn
    · exact .attached ending hkind ha

/-- An ending that the definition allows can begin with an equals sign only, unless an option lets
its value follow at once. -/
theorem AllowsEnding.eq_of_head? (h : d.AllowsEnding ending)
    (hattached : d.kind = .option → d.facets.attached = false) {c : Char}
    (hc : ending.head? = some c) : c = '=' := by
  cases h with
  | flag => contradiction
  | equals cs => exact (Option.some.inj hc).symm
  | bare => contradiction
  | attached _ hkind ha =>
    rw [hattached hkind] at ha
    contradiction

/-- A name without an equals sign is what stands before the first one, unless an option lets its
value follow at once. -/
theorem AllowsEnding.takeWhile_append (h : d.AllowsEnding ending) (hname : '=' ∉ name.toList)
    (hattached : d.kind = .option → d.facets.attached = false) :
    (name.toList ++ ending).takeWhile (· ≠ '=') = name.toList := by
  apply takeWhile_append_of_head?
  · intro c hc
    rw [decide_eq_true_eq]
    rintro rfl
    exact hname hc
  · intro c hc
    rw [h.eq_of_head? hattached hc]
    rfl

/-- An ending that can be read is allowed. -/
theorem Reads.allowsEnding (h : d.Reads ending c) : d.AllowsEnding ending :=
  allowsEnding_iff_exists_reads.2 ⟨c, h⟩

/-- An ending of a flag is read as a flag. -/
theorem Reads.eq_flag (h : d.Reads ending c) (hkind : d.kind = .flag) : c = .flag := by
  have hoption : d.kind ≠ .option := by
    rw [hkind]
    exact nofun
  cases h with
  | flag => rfl
  | equals _ h => contradiction
  | next h => contradiction
  | attached _ h => contradiction

/-! ## One name -/

/-- How the name of a flag fits a body that is the name and an ending. -/
theorem fit?_append_of_flag (hkind : d.kind = .flag) {hyphens : Nat}
    (hhyphens : d.facets.acceptsHyphens hyphens name = true) :
    d.fit? hyphens (name.toList ++ ending) name = if ending = [] then some .flag else none := by
  unfold fit?
  simp [hhyphens, hkind]

/-- How the name of an option fits a body that is the name and an ending. -/
theorem fit?_append_of_option (hkind : d.kind = .option) {hyphens : Nat}
    (hhyphens : d.facets.acceptsHyphens hyphens name = true) :
    d.fit? hyphens (name.toList ++ ending) name =
      (d.facets.separatorFor ending).map fun
        | .equals => .inline (String.ofList (ending.drop 1))
        | .attached => .inline (String.ofList ending)
        | .nextToken => .next := by
  unfold fit?
  rw [hhyphens, hkind, List.isPrefixOf?_eq_some_iff_append_eq.2 rfl]
  rfl

/-- A name that fits has its hyphens accepted, and begins the body. -/
theorem exists_append_of_fit? {hyphens : Nat} {body : List Char}
    (h : d.fit? hyphens body name = some c) :
    d.facets.acceptsHyphens hyphens name = true ∧ ∃ ending, body = name.toList ++ ending := by
  unfold fit? at h
  by_cases hhyphens : d.facets.acceptsHyphens hyphens name = true
  · refine ⟨hhyphens, ?_⟩
    rw [hhyphens, Bool.not_true, if_neg Bool.false_ne_true] at h
    cases hkind : d.kind with
    | flag =>
      simp only [hkind] at h
      split_ifs at h with hbody
      exact ⟨[], by rw [hbody, List.append_nil]⟩
    | option =>
      simp only [hkind] at h
      cases hrest : name.toList.isPrefixOf? body with
      | none => simp [hrest] at h
      | some ending => exact ⟨ending, (List.isPrefixOf?_eq_some_iff_append_eq.1 hrest).symm⟩
  · rw [Bool.not_eq_true] at hhyphens
    rw [hhyphens, Bool.not_false, if_pos rfl] at h
    contradiction

/-- Behind a name with accepted hyphens, an ending gives what it reads as. -/
theorem fit?_append_eq_some_iff {hyphens : Nat}
    (hhyphens : d.facets.acceptsHyphens hyphens name = true) :
    d.fit? hyphens (name.toList ++ ending) name = some c ↔ d.Reads ending c := by
  constructor
  · intro h
    cases hkind : d.kind with
    | flag =>
      rw [fit?_append_of_flag hkind hhyphens] at h
      split_ifs at h with hending
      cases h
      exact hending ▸ .flag hkind
    | option =>
      rw [fit?_append_of_option hkind hhyphens, Option.map_eq_some_iff] at h
      obtain ⟨separator, hseparator, rfl⟩ := h
      -- The separators are tried in the order in which `Reads` prefers them.
      unfold Facets.separatorFor at hseparator
      split_ifs at hseparator with hequals hnext hattached
      · cases hseparator
        obtain ⟨cs, rfl⟩ := List.head?_eq_some_iff.1 hequals.1
        exact .equals cs hkind hequals.2
      · cases hseparator
        obtain ⟨rfl, hn⟩ := hnext
        exact .next hkind (d.facets.allowsNextToken_eq_true_iff.1 hn)
      · cases hseparator
        rw [Facets.allowsNextToken_eq_true_iff] at hnext
        exact .attached ending hkind hattached hequals hnext
  · rintro (hkind | ⟨cs, hkind, he⟩ | ⟨hkind, hn⟩ | ⟨_, hkind, ha, hequals, hnext⟩)
    · rw [fit?_append_of_flag hkind hhyphens, if_pos rfl]
    · rw [fit?_append_of_option hkind hhyphens, Facets.separatorFor_equals he]
      rfl
    · rw [← Facets.allowsNextToken_eq_true_iff] at hn
      rw [fit?_append_of_option hkind hhyphens, Facets.separatorFor_nil hn]
      rfl
    · rw [← Facets.allowsNextToken_eq_true_iff] at hnext
      rw [fit?_append_of_option hkind hhyphens, Facets.separatorFor_of_attached ha hequals hnext]
      rfl

/-- A name gives a claim exactly if its hyphens are allowed and the body is the name with an ending
that reads as the claim. -/
theorem fit?_eq_some_iff {hyphens : Nat} {body : List Char} :
    d.fit? hyphens body name = some c ↔ d.facets.AllowsHyphens name hyphens ∧
      ∃ ending, body = name.toList ++ ending ∧ d.Reads ending c := by
  rw [← Facets.acceptsHyphens_eq_true_iff]
  constructor
  · intro h
    obtain ⟨hhyphens, ending, rfl⟩ := exists_append_of_fit? h
    exact ⟨hhyphens, ending, rfl, (fit?_append_eq_some_iff hhyphens).1 h⟩
  · rintro ⟨hhyphens, ending, rfl, hreads⟩
    exact (fit?_append_eq_some_iff hhyphens).2 hreads

/-- A name gives a claim of a token exactly if it fits with an ending that reads as the claim. -/
theorem fit?_eq_some_iff_exists_fits :
    d.fit? (hyphenCount token) (token.toList.drop (hyphenCount token)) name = some c ↔
      ∃ ending, d.Fits name token ending ∧ d.Reads ending c := by
  rw [fit?_eq_some_iff]
  constructor
  · rintro ⟨hhyphens, ending, hbody, hreads⟩
    exact ⟨ending, ⟨hhyphens, hbody, hreads.allowsEnding⟩, hreads⟩
  · rintro ⟨ending, hfits, hreads⟩
    exact ⟨hfits.hyphens, ending, hfits.body, hreads⟩

/-- A name gives no claim of a token exactly if it does not fit. -/
theorem fit?_eq_none_iff_not_fits :
    d.fit? (hyphenCount token) (token.toList.drop (hyphenCount token)) name = none ↔
      ∀ ending, ¬ d.Fits name token ending := by
  constructor
  · intro h ending hfits
    obtain ⟨c, hreads⟩ := allowsEnding_iff_exists_reads.1 hfits.ending
    rw [fit?_eq_some_iff_exists_fits.2 ⟨ending, hfits, hreads⟩] at h
    contradiction
  · intro h
    apply Option.eq_none_iff_forall_ne_some.2
    intro c hc
    obtain ⟨ending, hfits, -⟩ := fit?_eq_some_iff_exists_fits.1 hc
    exact h ending hfits

/-! ## All names -/

/-- A token is claimed as the first name that fits says. Without a leading hyphen none does. -/
theorem claim?_eq_findSome? (d : Definition) (token : String) :
    d.claim? token =
      d.names.findSome? (d.fit? (hyphenCount token) (token.toList.drop (hyphenCount token))) := by
  unfold claim?
  simp only
  split_ifs with hzero
  · rw [eq_comm, List.findSome?_eq_none_iff]
    intro name _
    exact fit?_eq_none_iff_not_fits.2 fun ending hfits => hfits.hyphens.ne_zero hzero
  · rfl

/-- The first name that fits is one of the names. -/
theorem FirstFits.mem_names (h : d.FirstFits name token ending) : name ∈ d.names := by
  obtain ⟨earlier, later, hnames, -, -⟩ := h
  rw [hnames]
  exact List.mem_append_right earlier List.mem_cons_self

/-- The first name that fits does fit. -/
theorem FirstFits.fits (h : d.FirstFits name token ending) : d.Fits name token ending := by
  obtain ⟨-, -, -, -, hfits⟩ := h
  exact hfits

/-- A definition takes a token in the way in which the ending behind the first name that fits is
read. -/
theorem claim?_eq_some_iff_firstFits :
    d.claim? token = some c ↔ ∃ name ending, d.FirstFits name token ending ∧ d.Reads ending c := by
  rw [claim?_eq_findSome?, List.findSome?_eq_some_iff]
  constructor
  · rintro ⟨earlier, name, later, hnames, hfit, hearlier⟩
    obtain ⟨ending, hfits, hreads⟩ := fit?_eq_some_iff_exists_fits.1 hfit
    refine ⟨name, ending, ⟨earlier, later, hnames, ?_, hfits⟩, hreads⟩
    exact fun n hn => fit?_eq_none_iff_not_fits.1 (hearlier n hn)
  · rintro ⟨name, ending, ⟨earlier, later, hnames, hearlier, hfits⟩, hreads⟩
    refine ⟨earlier, name, later, hnames, ?_, ?_⟩
    · exact fit?_eq_some_iff_exists_fits.2 ⟨ending, hfits, hreads⟩
    · exact fun n hn => fit?_eq_none_iff_not_fits.2 (hearlier n hn)

/-- A definition does not take a token exactly if none of its names fits. -/
theorem claim?_eq_none_iff_not_fits :
    d.claim? token = none ↔ ∀ name ∈ d.names, ∀ ending, ¬ d.Fits name token ending := by
  rw [claim?_eq_findSome?, List.findSome?_eq_none_iff]
  simp only [fit?_eq_none_iff_not_fits]

/-- A definition claims a token exactly if one of its names fits. -/
theorem claims_iff_exists_fits :
    d.claims token = true ↔ ∃ name ∈ d.names, ∃ ending, d.Fits name token ending := by
  rw [← not_iff_not, Bool.not_eq_true, d.claims_eq_false_iff, claim?_eq_none_iff_not_fits]
  simp only [not_exists, not_and]

end Definition

/-! ## What is taken -/

/-- The finding of what a claim takes. -/
theorem Claim.finding_taking (c : Claim) (rest : List String) :
    (c.taking rest).1.finding = c.finding rest.head? := by
  cases c with
  | flag => rfl
  | inline value => rfl
  | next => cases rest <;> rfl

/-- What a claim leaves of the tokens that follow. -/
theorem Claim.taking_snd (c : Claim) (rest : List String) :
    (c.taking rest).2 = rest.drop (c.size - 1) := by
  cases c with
  | flag => rfl
  | inline value => rfl
  | next => cases rest <;> rfl

/-- A claim takes at least the token itself. -/
theorem Claim.size_pos (c : Claim) : 0 < c.size := by
  unfold size
  split <;> decide

/-- Trying a definition at a position of some tokens always gives a result. It is absence exactly if
no name fits the token there, and the tokens are left alone then. Otherwise the first name that fits
decides: what stands behind it is read as a claim, which says what is found, with the next token for
a value if it asks for that, and how many tokens go. All others stay as they were. -/
theorem Definition.takeAt_of_lt (d : Definition) (tokens : List String) (i : Nat)
    (h : i < tokens.length) :
    ∃ probe, d.takeAt i tokens = .ok probe ∧
      (probe.finding = .absent ↔ ∀ name ∈ d.names, ∀ ending, ¬ d.Fits name tokens[i] ending) ∧
      (probe.finding = .absent → probe.tokens = tokens) ∧
      (probe.finding ≠ .absent → ∃ name ending claim,
        d.FirstFits name tokens[i] ending ∧ d.Reads ending claim ∧
          probe.finding = claim.finding tokens[i + 1]? ∧
          probe.tokens = tokens.take i ++ tokens.drop (i + claim.size)) := by
  -- What is tried is the token between those in front and those behind.
  have hsplit : tokens.take i ++ tokens[i] :: tokens.drop (i + 1) = tokens := by
    rw [← List.drop_eq_getElem_cons h, List.take_append_drop]
  have htake := d.takeAt_append (tokens.take i) tokens[i] (tokens.drop (i + 1))
  rw [hsplit, List.length_take_of_le (Nat.le_of_lt h)] at htake
  rw [← claim?_eq_none_iff_not_fits]
  cases hc : d.claim? tokens[i] with
  | none =>
    rw [hc] at htake
    exact ⟨_, htake, iff_of_true rfl rfl, fun _ => rfl, fun hpresent => absurd rfl hpresent⟩
  | some c =>
    rw [hc] at htake
    have hpresent : (c.taking (tokens.drop (i + 1))).1.finding ≠ .absent := by
      intro habsent
      have hfound := (c.taking (tokens.drop (i + 1))).1.present_finding
      rw [habsent] at hfound
      contradiction
    obtain ⟨name, ending, hfits, hreads⟩ := claim?_eq_some_iff_firstFits.1 hc
    refine ⟨_, htake, iff_of_false hpresent nofun, fun habsent => absurd habsent hpresent, ?_⟩
    intro _
    refine ⟨name, ending, c, hfits, hreads, ?_, ?_⟩
    · rw [c.finding_taking, List.head?_drop]
    · have hsize : i + 1 + (c.size - 1) = i + c.size := by
        have := c.size_pos
        omega
      rw [c.taking_snd, List.drop_drop, hsize]

/-- An option whose name begins its alias. Its value stands behind the name or behind an equals
sign. -/
def lengthOption : Definition where
  kind := .option
  name := "l"
  aliases := ["length"]
  facets := { singleHyphen := true, attached := true, equals := true }
  name_ne := by decide
  alias_ne := by decide

/-- Both names fit the token, and the first one leaves the end of the other to the value. -/
theorem takeAt_of_lt_length_option :
    1 < ["file", "-length=5", "-l"].length ∧
      ∃ probe, lengthOption.takeAt 1 ["file", "-length=5", "-l"] = .ok probe ∧
        probe.finding = .found (some "ength=5") ∧ probe.tokens = ["file", "-l"] ∧
        ∃ name ending claim, lengthOption.FirstFits name "-length=5" ending ∧
          lengthOption.Reads ending claim ∧ probe.finding = claim.finding (some "-l") ∧
          probe.tokens = ["file"] ++ ["-length=5", "-l"].drop claim.size := by
  have hlt : 1 < ["file", "-length=5", "-l"].length := by decide
  obtain ⟨probe, hprobe, -, -, hpresent⟩ :=
    lengthOption.takeAt_of_lt ["file", "-length=5", "-l"] 1 hlt
  obtain rfl : _ = probe := Except.ok.inj hprobe
  obtain ⟨name, ending, claim, hfits, hreads, hfinding, htokens⟩ := hpresent (by decide)
  refine ⟨hlt, _, hprobe, rfl, rfl, name, ending, claim, hfits, hreads, hfinding, ?_⟩
  rw [htokens, Nat.add_comm]
  rfl

end ArgScan
