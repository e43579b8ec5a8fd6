import ArgScan.Proofs.Simulation
import ArgScan.Proofs.Spelling

/-!
# Writing and scanning

What a definition writes, a scan reads back. For a single definition this is an equivalence
(`scan_render_iff`): a name that does not begin with a hyphen and any value come back, save the one
value that its spelling loses. For a batch, a whole command line of written arguments comes back
(`scan_append_emissions`), behind any tokens that no definition claims, as long as no earlier
definition claims the head of a written argument. Values in tokens of their own may look like
anything, since the scan does not look at them.

Both rest on `reading_takes`: tokens that a definition takes as one occurrence are one part of the
reading, and the reading of what follows starts afresh behind them.
-/

namespace ArgScan

variable {ds : List Definition}

/-- Tokens that a definition takes as one occurrence are one part of a reading, if no earlier
definition claims the first of them. -/
theorem reading_takes {d : Definition} {i : Nat} {tokens : List String} {f : Finding}
    (hd : ds[i]? = some d) (htakes : d.Takes tokens f)
    (hfirst : ∀ t ∈ tokens.head?, ∀ e ∈ ds.take i, e.claims t = false)
    (rest : List String) :
    ∃ head k, k.finding = f ∧
      reading ds (tokens ++ rest) = .taken i head k :: reading ds rest := by
  obtain ⟨first, extra, c, k, rfl, hc, htaking, hk⟩ := htakes
  have hclaimant : claimant? ds first = some (i, c) :=
    (claimant?_eq_some_iff ds first i c).2 ⟨⟨d, hd, hc⟩, hfirst first rfl⟩
  refine ⟨first, k, hk, ?_⟩
  rw [List.cons_append, reading_cons_of_some hclaimant, htaking rest]

/-! ## A single definition -/

/-- What a scan for a single definition gives on a single occurrence. -/
theorem scan_of_reading_eq_singleton {d : Definition} {ts : List String} {head : String}
    {k : Taking} (h : reading [d] ts = [.taken 0 head k]) :
    ∃ s, scan [d] ts = .ok s ∧ s.findings = [k.finding] ∧ s.tokens = [] := by
  refine ⟨_, scan_eq [d] ts, ?_, ?_⟩
  · rw [findings_after_start, h]
    rfl
  · rw [tokens_after_start, h]
    rfl

/-- What a definition writes is read back by a scan for that definition, without remainder, exactly
if its spelling does not lose the value. -/
theorem scan_render_iff (d : Definition) (value : String) (hname : d.name.toList.head? ≠ some '-') :
    ∃ rendering, d.render (some value) = .ok rendering ∧
      ((∃ s, scan [d] rendering.tokens = .ok s ∧
          s.findings = [if d.isFlag then .flag else .found (some value)] ∧ s.tokens = []) ↔
        ¬ (d.kind = .option ∧ d.facets.attached = true ∧ d.facets.nextToken = true ∧
          d.facets.equals = false ∧ value = "")) := by
  obtain ⟨r, hr⟩ := d.render_some value
  refine ⟨r, hr, ?_⟩
  rw [← d.loses_some_iff]
  constructor
  · -- The bare name takes the next token, of which there is none, so no value is found.
    rintro ⟨s, hs, hfindings, -⟩ hlost
    have hclaimant := claimant?_cons_of_some [] (Definition.claim?_head_of_loses hname hlost)
    have hread : reading [d] r.tokens = [.taken 0 d.head .dangling] := by
      rw [Definition.tokens_render_of_loses hr hlost, reading_cons_of_some hclaimant]
      rfl
    obtain ⟨s', hs', hfindings', -⟩ := scan_of_reading_eq_singleton hread
    obtain rfl : s = s' := Except.ok.inj (hs.symm.trans hs')
    have hflag : ¬ d.isFlag = true := by simp [Definition.isFlag, hlost.1]
    rw [hfindings', if_neg hflag] at hfindings
    cases hfindings
  · -- All written tokens are one occurrence, behind which nothing is left to read.
    intro hkeep
    have hd : [d][0]? = some d := rfl
    obtain ⟨head, k, hk, hread⟩ :=
      reading_takes hd (Definition.takes_render hname hr hkeep) (by simp) []
    rw [List.append_nil] at hread
    have hscan := scan_of_reading_eq_singleton hread
    rwa [hk] at hscan

/-- An option that recognises values in all places, with aliases that begin its name. -/
def nameOption : Definition where
  kind := .option
  name := "name"
  aliases := ["n", "na"]
  facets := { attached := true, equals := true, nextToken := true }
  name_ne := by decide
  alias_ne := by decide

/-- A value that looks like the option itself comes back from behind the equals sign. -/
theorem scan_render_iff_name_option :
    nameOption.name.toList.head? ≠ some '-' ∧
      ∃ s, scan [nameOption] ["--name==--name"] = .ok s ∧
        s.findings = [.found (some "=--name")] ∧ s.tokens = [] := by
  have hname : nameOption.name.toList.head? ≠ some '-' := by decide
  obtain ⟨r, hr, hiff⟩ := scan_render_iff nameOption "=--name" hname
  obtain rfl : .one "--name==--name" = r := Except.ok.inj hr
  exact ⟨hname, hiff.2 (by decide)⟩

/-! ## A command line -/

/-- A written occurrence of one of the definitions of a batch. -/
structure Emission (ds : List Definition) where
  /-- The position of the definition. -/
  owner : Nat
  /-- The definition. -/
  definition : Definition
  /-- The value that is written. -/
  value : Option String
  /-- The written tokens. -/
  rendering : Rendering
  /-- The definition stands at its position. -/
  owned : ds[owner]? = some definition
  /-- The tokens are what the definition writes. -/
  rendered : definition.render value = .ok rendering

namespace Emission

/-- What should be found for the definition. -/
def finding (e : Emission ds) : Finding := e.definition.findingOf e.value

/-- The conditions under which an emission is read back: the name does not begin with a hyphen, the
value is not lost, and no earlier definition of the batch claims the first token. -/
structure IsReadable (e : Emission ds) : Prop where
  /-- The name does not begin with a hyphen. -/
  name_head : e.definition.name.toList.head? ≠ some '-'
  /-- The value is not lost. -/
  keeps : ¬ e.definition.Loses e.value
  /-- No earlier definition claims the first token. -/
  first_claim : ∀ t ∈ e.rendering.tokens.head?, ∀ d ∈ ds.take e.owner, d.claims t = false

instance (e : Emission ds) : Decidable e.IsReadable :=
  decidable_of_iff
    (e.definition.name.toList.head? ≠ some '-' ∧ ¬ e.definition.Loses e.value ∧
      ∀ t ∈ e.rendering.tokens.head?, ∀ d ∈ ds.take e.owner, d.claims t = false)
    ⟨fun ⟨h1, h2, h3⟩ => ⟨h1, h2, h3⟩, fun ⟨h1, h2, h3⟩ => ⟨h1, h2, h3⟩⟩

/-- A readable emission is one part of a reading. -/
theorem reading_append {e : Emission ds} (he : e.IsReadable) (rest : List String) :
    ∃ head k, k.finding = e.finding ∧
      reading ds (e.rendering.tokens ++ rest) = .taken e.owner head k :: reading ds rest :=
  reading_takes e.owned
    (Definition.takes_render he.name_head e.rendered he.keeps) he.first_claim rest

end Emission

/-- The finding of the last emission of the definition at a position, or absence. -/
def lastEmitted (emissions : List (Emission ds)) (i : Nat) : Finding :=
  (((emissions.filter fun e => e.owner = i).map Emission.finding).getLast?).getD .absent

/-- The reading of a command line of readable emissions keeps nothing, and its occurrences of each
definition are the emissions of that definition, in order. -/
theorem reading_emissions {emissions : List (Emission ds)} (h : ∀ e ∈ emissions, e.IsReadable) :
    keptTokens (reading ds (emissions.flatMap fun e => e.rendering.tokens)) = [] ∧
      ∀ i, (reading ds (emissions.flatMap fun e => e.rendering.tokens)).filterMap
          (Part.findingFor? i) =
        (emissions.filter fun e => e.owner = i).map Emission.finding := by
  induction emissions with
  | nil => exact ⟨rfl, fun _ => rfl⟩
  | cons e emissions ih =>
    rw [List.forall_mem_cons] at h
    obtain ⟨hkept, hfound⟩ := ih h.2
    obtain ⟨head, k, hk, hread⟩ := e.reading_append h.1
      (emissions.flatMap fun e => e.rendering.tokens)
    rw [List.flatMap_cons, hread]
    refine ⟨hkept, fun i => ?_⟩
    -- The first emission counts for its owner only.
    by_cases hi : e.owner = i
    · have hhead : Part.findingFor? i (.taken e.owner head k) = some e.finding := by
        rw [hi, Part.findingFor?_taken_self, hk]
      rw [List.filterMap_cons_some hhead, hfound, List.filter_cons_of_pos (by simpa using hi),
        List.map_cons]
    · rw [List.filterMap_cons_none (Part.findingFor?_taken_of_ne hi head k), hfound,
        List.filter_cons_of_neg (by simpa using hi)]

/-- A command line of readable emissions, behind tokens that no definition claims, is scanned into
the values that were written last, and leaves just the tokens in front. -/
theorem scan_append_emissions (ds : List Definition) (before : List String)
    (emissions : List (Emission ds)) (hbefore : ∀ t ∈ before, ∀ d ∈ ds, d.claims t = false)
    (hreadable : ∀ e ∈ emissions, e.IsReadable) :
    ∃ s, scan ds (before ++ emissions.flatMap fun e => e.rendering.tokens) = .ok s ∧
      s.tokens = before ∧ s.findings = (List.range ds.length).map (lastEmitted emissions) := by
  obtain ⟨hkept, hfound⟩ := reading_emissions hreadable
  refine ⟨_, scan_eq ds _, ?_, ?_⟩
  · rw [tokens_after_start, reading_append_of_not_claims hbefore, keptTokens_map_kept_append, hkept,
      List.append_nil]
  · rw [findings_after_start, reading_append_of_not_claims hbefore]
    apply List.map_congr_left
    intro i _
    rw [lastFinding_map_kept_append, lastFinding, hfound, lastEmitted]

/-- A batch of an option whose value is behind its name, an option whose value is the next token,
and a flag. -/
def mixedBatch : List Definition :=
  [{ kind := .option, name := "n", aliases := [], facets := { attached := true }
     name_ne := by decide, alias_ne := by decide },
   { kind := .option, name := "name", aliases := [], facets := .none
     name_ne := by decide, alias_ne := by decide },
   { kind := .flag, name := "v", aliases := ["verbose"], facets := .none
     name_ne := by decide, alias_ne := by decide }]

/-- Emissions of all three, one of them twice, with values that look like the other two. -/
def mixedEmissions : List (Emission mixedBatch) :=
  [⟨1, _, some "-v", .two "--name" "-v", rfl, rfl⟩, ⟨2, _, none, .one "-v", rfl, rfl⟩,
    ⟨0, _, some "5", .one "-n5", rfl, rfl⟩, ⟨1, _, some "-n7", .two "--name" "-n7", rfl, rfl⟩]

/-- The later value counts, and the values that look like arguments are not taken for such. -/
theorem scan_append_emissions_mixed_batch :
    (∀ t ∈ ["file", "--other"], ∀ d ∈ mixedBatch, d.claims t = false) ∧
      (∀ e ∈ mixedEmissions, e.IsReadable) ∧
      ∃ s, scan mixedBatch
          ["file", "--other", "--name", "-v", "-v", "-n5", "--name", "-n7"] = .ok s ∧
        s.tokens = ["file", "--other"] ∧
        s.findings = [.found (some "5"), .found (some "-n7"), .flag] := by
  have hbefore : ∀ t ∈ ["file", "--other"], ∀ d ∈ mixedBatch, d.claims t = false := by decide
  have hreadable : ∀ e ∈ mixedEmissions, e.IsReadable := by decide
  exact ⟨hbefore, hreadable, scan_append_emissions mixedBatch _ mixedEmissions hbefore hreadable⟩

end ArgScan
