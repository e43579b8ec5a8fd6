import ArgScan.Proofs.Lines
import ArgScan.Proofs.Printing

/-!
# Tables that show what is meant

The cells of the table of a scan go through markup, and nothing escapes them before. A cell shows as
it is exactly if markup and the console leave it alone (`shownCell_eq_iff`), as they do with every
cell for a kind or a presence. So the table shows what is meant exactly if they leave alone the head
of each argument, which is set by the settings file, and the literal of each value found, which
comes with the tokens (`run_scanLine_verbatim_iff`).

On a console that knows emoji, those for codes stand in the cells and in the line of the tokens left
as well. Where there are no codes, all of this holds there too, and for any host
(`run_scanLine_reports`).
-/

namespace ArgScan.Program

variable {host : Host} {folder : Files.Folder} {config : String} {loaded : Settings.Loaded}

/-! ## Cells as they are meant -/

/-- Markup and the console leave a text alone: it has nothing that markup takes out, and no
character that moves the cursor. -/
def IsVerbatim (cell : String) : Prop :=
  Console.Markup.IsPlain cell.toList ∧ ∀ c ∈ cell.toList, c ∉ Console.controls

-- The characters of the text are gone through, and not all characters that there are.
instance (cell : String) : Decidable (IsVerbatim cell) :=
  @instDecidableAnd _ _ inferInstance (List.decidableBAll _ _)

/-- A cell shows as it is exactly if it is verbatim, unless the emoji of the console matter for it.
-/
theorem shownCell_eq_iff {dialect : Console.Dialect} {cell : String}
    (hemoji : Console.Markup.render cell.toList dialect =
      Console.Markup.render cell.toList dialect.withoutEmoji) :
    shownCell cell dialect = .ok cell.toList ↔ IsVerbatim cell := by
  unfold shownCell IsVerbatim
  rw [hemoji]
  constructor
  · intro h
    obtain ⟨out, hrender, hshown⟩ : ∃ out,
        Console.Markup.render cell.toList dialect.withoutEmoji = .ok out ∧
          Console.shown out = cell.toList := by
      cases hrender : Console.Markup.render cell.toList dialect.withoutEmoji with
      | error error =>
        rw [hrender] at h
        contradiction
      | ok out =>
        rw [hrender] at h
        exact ⟨out, rfl, Except.ok.inj h⟩
    -- Neither markup nor the console adds a character, so neither takes one out.
    have hle := Console.Markup.length_le_of_render hrender
    have hsame : Console.shown out = out :=
      List.filter_sublist.eq_of_length_le (hle.trans (congrArg List.length hshown).ge)
    obtain rfl : out = cell.toList := hsame.symm.trans hshown
    exact ⟨(Console.Markup.render_eq_self_iff _).1 hrender, (Console.shown_eq_self_iff _).1 hsame⟩
  · rintro ⟨hplain, hcontrols⟩
    rw [(Console.Markup.render_eq_self_iff _).2 hplain]
    exact congrArg Except.ok ((Console.shown_eq_self_iff _).2 hcontrols)

/-- What may fail gives the values of a function all along a list exactly if it does at each member.
-/
theorem mapM_eq_ok_map_iff {α β ε : Type} {f : α → Except ε β} {g : α → β} {xs : List α} :
    xs.mapM f = .ok (xs.map g) ↔ ∀ x ∈ xs, f x = .ok (g x) := by
  induction xs with
  | nil => exact ⟨fun _ => List.forall_mem_nil _, fun _ => rfl⟩
  | cons x xs ih =>
    rw [List.mapM_cons, List.forall_mem_cons, ← ih]
    cases f x <;> cases xs.mapM f <;>
      simp [bind, Except.bind, pure, Except.pure]

/-- The cells that rows are meant to show. -/
def meantCells (rows : List Row) : List (List (List Char)) :=
  rows.map fun row => row.cells.map String.toList

/-- Rows show as they are meant exactly if each of their cells is verbatim, unless the emoji of the
console matter for one. -/
theorem shownRows_eq_iff {dialect : Console.Dialect} {rows : List Row}
    (hemoji : ∀ row ∈ rows, ∀ cell ∈ row.cells, Console.Markup.render cell.toList dialect =
      Console.Markup.render cell.toList dialect.withoutEmoji) :
    shownRows rows dialect = .ok (meantCells rows) ↔
      ∀ row ∈ rows, ∀ cell ∈ row.cells, IsVerbatim cell := by
  simp only [shownRows, meantCells, mapM_eq_ok_map_iff]
  exact forall₂_congr fun row hrow => forall₂_congr fun cell hcell =>
    shownCell_eq_iff (hemoji row hrow cell hcell)

/-- The texts of cells that are not made from arguments and values. -/
def fixedCells : List String := ["flag", "option", "yes", "no", ""]

section Cells

variable {P : String → Prop} (hfixed : ∀ cell ∈ fixedCells, P cell)

include hfixed

/-- What holds of the fixed texts holds of the cells of a row if it does of the argument, and of the
value if there is one. -/
theorem forall_cells_of_iff (d : Definition) (f : Finding) :
    (∀ cell ∈ (Row.of d f).cells, P cell) ↔
      P d.head ∧ ∀ value, f.value = some value → P (Text.quoted value) := by
  -- There are two kinds and two words for the presence.
  have hkind : P d.kind.word := by
    cases d.kind <;> exact hfixed _ (by decide)
  have hpresent : P (if f.present then "yes" else "no") := by
    cases f.present <;> exact hfixed _ (by decide)
  have hvalue : P ((f.value.map Text.quoted).getD "") ↔
      ∀ value, f.value = some value → P (Text.quoted value) := by
    cases f.value with
    | none => exact ⟨nofun, fun _ => hfixed _ (by decide)⟩
    | some value => exact ⟨fun h v hv => Option.some.inj hv ▸ h, fun h => h value rfl⟩
  simp only [Row.cells, Row.of, List.forall_mem_cons, hkind, hpresent, hvalue, true_and]
  exact ⟨fun h => ⟨h.1, h.2.1⟩, fun h => ⟨h.1, h.2, List.forall_mem_nil _⟩⟩

/-- What holds of the fixed texts holds of all cells of a scan exactly if it does of its arguments
and of the values found. -/
theorem forall_rows_iff {definitions : List Definition} {findings : List Finding}
    (hlength : findings.length = definitions.length) :
    (∀ row ∈ Report.rows definitions findings, ∀ cell ∈ row.cells, P cell) ↔
      (∀ d ∈ definitions, P d.head) ∧
        ∀ f ∈ findings, ∀ value, f.value = some value → P (Text.quoted value) := by
  -- Each argument and each finding is in one of the pairs that the rows are made of.
  let pairs := definitions.zip findings
  have harguments : (∀ p ∈ pairs, P p.1.head) ↔ ∀ d ∈ definitions, P d.head := by
    have hfst : pairs.map Prod.fst = definitions := List.map_fst_zip hlength.ge
    calc (∀ p ∈ pairs, P p.1.head)
        ↔ ∀ d ∈ pairs.map Prod.fst, P d.head := by rw [List.forall_mem_map]
      _ ↔ ∀ d ∈ definitions, P d.head := by rw [hfst]
  have hvalues : (∀ p ∈ pairs, ∀ value, p.2.value = some value → P (Text.quoted value)) ↔
      ∀ f ∈ findings, ∀ value, f.value = some value → P (Text.quoted value) := by
    have hsnd : pairs.map Prod.snd = findings := List.map_snd_zip hlength.le
    calc (∀ p ∈ pairs, ∀ value, p.2.value = some value → P (Text.quoted value))
        ↔ ∀ f ∈ pairs.map Prod.snd, ∀ value, f.value = some value → P (Text.quoted value) := by
          rw [List.forall_mem_map]
      _ ↔ _ := by rw [hsnd]
  rw [← harguments, ← hvalues, ← forall₂_and]
  simp only [Report.rows, List.forall_mem_map, forall_cells_of_iff hfixed]
  rfl

end Cells

/-- The fixed texts are verbatim. -/
theorem forall_isVerbatim_fixedCells : ∀ cell ∈ fixedCells, IsVerbatim cell := by decide

/-- With no log mode in the environment, a scan ends with exit status zero and a table that shows
each argument, its kind, whether it was found and its value as they are, exactly if markup and the
console leave alone the heads of all arguments and the literals of all values found. -/
theorem run_scanLine_verbatim_iff (hconfig : config.toList.head? ≠ some '-')
    (hload : Settings.load folder config = .ok loaded) (tokens : List String) :
    ∃ s : Scan, scan loaded.definitions tokens = .ok s ∧
      ((shownRows (Report.rows loaded.definitions s.findings) =
            .ok (meantCells (Report.rows loaded.definitions s.findings)) ∧
          run folder none (CommandLine.scanLine config false tokens) =
            .ok {
              status := 0
              output := printedScan (meantCells (Report.rows loaded.definitions s.findings)) s.tokens
              errors := "" }) ↔
        (∀ d ∈ loaded.definitions, IsVerbatim d.head) ∧
          ∀ f ∈ s.findings, ∀ value, f.value = some value → IsVerbatim (Text.quoted value)) := by
  obtain ⟨s, hscan, -, hfindings⟩ := exists_scan_eq_ok loaded.definitions tokens
  have hlength : s.findings.length = loaded.definitions.length := by
    rw [hfindings, List.length_map, List.length_range]
  refine ⟨s, hscan, ?_⟩
  have hemoji : ∀ row ∈ Report.rows loaded.definitions s.findings, ∀ cell ∈ row.cells,
      Console.Markup.render cell.toList =
        Console.Markup.render cell.toList Console.Dialect.plain.withoutEmoji :=
    fun _ _ _ _ => rfl
  rw [← forall_rows_iff forall_isVerbatim_fixedCells hlength, ← shownRows_eq_iff hemoji]
  constructor
  · exact And.left
  · exact fun hcells =>
      ⟨hcells, run_scanLine_false_of_cells hconfig hload hscan Log.ofName?_modeName_none hcells⟩

/-- Brackets that are no tag leave the table as it is meant. -/
theorem run_scanLine_verbatim_iff_no_tag :
    "a.toml".toList.head? ≠ some '-' ∧ ∃ loaded s,
      Settings.load optionFolder "a.toml" = .ok loaded ∧
      scan loaded.definitions ["-l", "[1]"] = .ok s ∧
      s.findings = [.found (some "[1]")] ∧
      run optionFolder none (CommandLine.scanLine "a.toml" false ["-l", "[1]"]) =
        .ok {
          status := 0
          output := printedScan [["--level", "option", "yes", "'[1]'"].map String.toList] []
          errors := "" } := by
  obtain ⟨loaded, hload, hdefinitions⟩ := exists_load_optionFolder
  obtain ⟨s, hscan, hiff⟩ := run_scanLine_verbatim_iff (by decide) hload ["-l", "[1]"]
  obtain ⟨s', hscan', htokens, hfindings⟩ : ∃ s', scan [plainOption] ["-l", "[1]"] = .ok s' ∧
      s'.tokens = [] ∧ s'.findings = [.found (some "[1]")] := ⟨_, rfl, rfl, rfl⟩
  obtain rfl : s = s' := by
    rw [hdefinitions, hscan'] at hscan
    exact (Except.ok.inj hscan).symm
  refine ⟨by decide, loaded, s, hload, hscan, hfindings, ?_⟩
  rw [hdefinitions, hfindings, htokens] at hiff
  have hverbatim : (∀ d ∈ [plainOption], IsVerbatim d.head) ∧
      ∀ f ∈ [Finding.found (some "[1]")], ∀ value, f.value = some value →
        IsVerbatim (Text.quoted value) := by
    simp only [List.forall_mem_singleton]
    refine ⟨by decide, ?_⟩
    rintro value ⟨⟩
    decide
  exact (hiff.2 hverbatim).2

/-- Tokens can break the run off, with a value that is a closing tag, and change what the table
shows, with a value that has a tag: here the tag is missing from it. -/
theorem exists_tokens_change_table :
    "a.toml".toList.head? ≠ some '-' ∧ ∃ loaded s,
      Settings.load optionFolder "a.toml" = .ok loaded ∧
      run optionFolder none (CommandLine.scanLine "a.toml" false ["-l", "[/]"]) =
        .error (.markup .nothingToClose) ∧
      scan loaded.definitions ["-l", "[b]x"] = .ok s ∧
      s.findings = [.found (some "[b]x")] ∧
      run optionFolder none (CommandLine.scanLine "a.toml" false ["-l", "[b]x"]) =
        .ok {
          status := 0
          output := printedScan [["--level", "option", "yes", "'x'"].map String.toList] []
          errors := "" } := by
  obtain ⟨loaded, hload, hdefinitions⟩ := exists_load_optionFolder
  obtain ⟨closing, hclosing, hbroken⟩ : ∃ s, scan loaded.definitions ["-l", "[/]"] = .ok s ∧
      shownRows (Report.rows loaded.definitions s.findings) = .error .nothingToClose := by
    rw [hdefinitions]
    exact ⟨_, rfl, rfl⟩
  obtain ⟨s, hscan, htokens, hfindings, hcells⟩ : ∃ s,
      scan loaded.definitions ["-l", "[b]x"] = .ok s ∧ s.tokens = [] ∧
      s.findings = [.found (some "[b]x")] ∧
      shownRows (Report.rows loaded.definitions s.findings) =
        .ok [["--level", "option", "yes", "'x'"].map String.toList] := by
    rw [hdefinitions]
    exact ⟨_, rfl, rfl, rfl, rfl⟩
  have hconfig : "a.toml".toList.head? ≠ some '-' := by decide
  have hmode := Log.ofName?_modeName_none
  have hrun := run_scanLine_false_of_cells hconfig hload hscan hmode hcells
  rw [htokens] at hrun
  exact ⟨hconfig, loaded, s, hload,
    run_scanLine_of_error hconfig hload hclosing hmode hbroken false, hscan, hfindings, hrun⟩

/-! ## Any host -/

/-- The cells of a scan hold no codes: neither the heads of the arguments nor the literals of the
values found do. -/
structure CellsHoldNoCode (definitions : List Definition) (findings : List Finding) : Prop where
  /-- The heads hold none. -/
  heads : ∀ d ∈ definitions, Console.HoldsNoCode d.head.toList
  /-- The literals hold none. -/
  values : ∀ f ∈ findings, ∀ value, f.value = some value →
    Console.HoldsNoCode (Text.quoted value).toList

/-- Where the cells of a scan hold no codes, its table shows what is meant exactly if the heads of
all arguments and the literals of all values found are verbatim, whatever the console is. -/
theorem CellsHoldNoCode.shownRows_eq_iff {definitions : List Definition} {findings : List Finding}
    (h : CellsHoldNoCode definitions findings) (hlength : findings.length = definitions.length)
    (dialect : Console.Dialect) :
    shownRows (Report.rows definitions findings) dialect =
        .ok (meantCells (Report.rows definitions findings)) ↔
      (∀ d ∈ definitions, IsVerbatim d.head) ∧
        ∀ f ∈ findings, ∀ value, f.value = some value → IsVerbatim (Text.quoted value) := by
  have hfixed : ∀ cell ∈ fixedCells, Console.HoldsNoCode cell.toList := by decide
  have hcells := (forall_rows_iff hfixed hlength).2 ⟨h.heads, h.values⟩
  rw [← forall_rows_iff forall_isVerbatim_fixedCells hlength]
  exact Program.shownRows_eq_iff fun row hrow cell hcell =>
    Console.Markup.render_of_holdsNoCode dialect (hcells row hrow cell hcell)

end ArgScan.Program
