import ArgScan.Proofs.CommandLine
import ArgScan.Proofs.Escaping
import ArgScan.Proofs.Quiet
import ArgScan.Proofs.Simulation

/-!
# What is printed of a scan

A command line that asks for a scan runs it over exactly the tokens behind the divider, and prints
its table and the tokens it leaves, quoted (`run_scanLine_eq_ok_iff`). Apart from a log mode that
does not exist, only the table can break the run off: its cells are markup, while the tokens left
are printed without markup and those refused are escaped, which always shows
(`exists_render_refusal`).

The console may have any dialect. It shows emoji for the codes in all that is printed, in the tokens
left too.
-/

namespace ArgScan

namespace Report

/-- The rows of the table of a scan: one for each definition, with what was found for it. -/
def rows (definitions : List Definition) (findings : List Finding) : List Row :=
  (definitions.zip findings).map fun (d, f) => Row.of d f

/-- The characters of an escaped text. -/
theorem toList_escaped (text : String) :
    (escaped text).toList = Console.Markup.escape text.toList := String.toList_ofList

/-- The line that refuses tokens, as markup. -/
def refusal (left : List String) : String :=
  "[red]Unrecognized arguments:[/] " ++ escaped (" ".intercalate left)

/-- What a scan asks to print: its table, the tokens left, and a refusal of them if it is strict. -/
def scanActs (strict : Bool) (definitions : List Definition) (s : Scan) : List Act :=
  .table (rows definitions s.findings) :: .text ("Remaining: " ++ Text.quotedList s.tokens) ::
    if strict && !s.tokens.isEmpty then [.markup (refusal s.tokens)] else []

/-- The report of a scan of the tokens behind a divider. -/
theorem parse_of_scan {definitions : List Definition} {tokens : List String} {s : Scan}
    (hscan : scan definitions tokens = .ok s) (strict : Bool) :
    parse strict ("--" :: tokens) definitions =
      { acts := (s.notices.map Notice.message).map Act.debug ++ scanActs strict definitions s
        outcome := .ok (if strict && !s.tokens.isEmpty then 2 else 0) } := by
  simp only [parse, scanned, hscan, List.map_map, List.append_assoc]
  rfl

end Report

namespace Program

variable {host : Host} {config : String} {loaded : Settings.Loaded}

/-! ## The tokens refused -/

/-- A line of a red label and an escaped text always shows, whatever the text is. -/
theorem exists_render_label (dialect : Console.Dialect) {start : String} {label : List Char}
    (hstart : start.toList = "[red]".toList ++ (label ++ "[/] ".toList)) (hne : label ≠ [])
    (hbracket : '[' ∉ label) (hslash : '\\' ∉ label) (hcode : Console.HoldsNoCode label)
    (text : String) :
    ∃ shown, Console.Markup.render (start ++ Report.escaped text).toList dialect =
      .ok (label ++ ' ' :: shown) := by
  rw [String.toList_append, Report.toList_escaped, hstart, List.append_assoc, List.append_assoc]
  exact Console.Markup.exists_render_labelled dialect hne hbracket hslash hcode text.toList

/-- The line that refuses tokens always shows, whatever they are. -/
theorem exists_render_refusal (dialect : Console.Dialect) (left : List String) :
    ∃ shown, Console.Markup.render (Report.refusal left).toList dialect =
      .ok ("Unrecognized arguments:".toList ++ ' ' :: shown) :=
  exists_render_label dialect rfl (by decide) (by decide) (by decide) (by decide)
    (" ".intercalate left)

/-! ## The run -/

/-- What is printed of a scan whose cells show, apart from a refusal: the table and the line of the
tokens left. -/
def printedScan (cells : List (List (List Char))) (left : List String) : String :=
  Console.ofLines (tableOf cells).lines ++
    Console.printed ("Remaining: " ++ Text.quotedList left).toList

/-- What is printed of a scan on a console with a dialect, apart from a refusal. -/
def printedScanOn (dialect : Console.Dialect) (cells : List (List (List Char)))
    (left : List String) : String :=
  Console.ofLines (tableOf cells).lines ++
    Console.printed (dialect.replace ("Remaining: " ++ Text.quotedList left).toList)

/-- In the plain dialect the line of the tokens left is printed as it is. -/
theorem printedScanOn_plain (cells : List (List (List Char))) (left : List String) :
    printedScanOn .plain cells left = printedScan cells left := by
  rw [printedScanOn, Console.Dialect.replace_plain, printedScan]

/-- Where the cells show, all that a scan asks for is printed, in order. -/
theorem exists_playAll_scanActs {dialect : Console.Dialect} {definitions : List Definition}
    {s : Scan} {cells : List (List (List Char))} {refused : List Char}
    (hcells : shownRows (Report.rows definitions s.findings) dialect = .ok cells)
    (hrefused : Console.Markup.render (Report.refusal s.tokens).toList dialect = .ok refused)
    (strict : Bool) (session : Log.Session) :
    ∃ session' : Log.Session,
      playAll dialect session (Report.scanActs strict definitions s) = .ok session' ∧
      session'.streams = { session.streams with
        output := session.streams.output ++ (printedScanOn dialect cells s.tokens ++
          if strict && !s.tokens.isEmpty then Console.printed refused else "") } := by
  -- The table and the line of the tokens left are printed in any case.
  let left := dialect.replace ("Remaining: " ++ Text.quotedList s.tokens).toList
  let session' := (session.write (Console.ofLines (tableOf cells).lines)).write
    (Console.printed left)
  have hplay : playAll dialect session (Report.scanActs strict definitions s) =
      playAll dialect session'
        (if strict && !s.tokens.isEmpty then [.markup (Report.refusal s.tokens)] else []) := by
    simp only [Report.scanActs, playAll, play, hcells, Except.map]
    rfl
  by_cases hrefuses : (strict && !s.tokens.isEmpty) = true
  · rw [if_pos hrefuses] at hplay ⊢
    refine ⟨session'.write (Console.printed refused), ?_, ?_⟩
    · rw [hplay]
      simp only [playAll, play, hrefused, Except.map]
      rfl
    · simp only [session', left, Log.Session.write, printedScanOn, String.append_assoc]
  · rw [if_neg hrefuses] at hplay ⊢
    refine ⟨session', hplay, ?_⟩
    simp only [session', left, Log.Session.write, printedScanOn, String.append_assoc,
      String.append_empty]

/-- Where a cell does not show, nothing that a scan asks for is printed. -/
theorem playAll_scanActs_of_error {dialect : Console.Dialect} {definitions : List Definition}
    {s : Scan} {error : Console.Markup.Error}
    (hcells : shownRows (Report.rows definitions s.findings) dialect = .error error)
    (strict : Bool) (session : Log.Session) :
    playAll dialect session (Report.scanActs strict definitions s) = .error error := by
  simp only [Report.scanActs, playAll, play, hcells, Except.map]
  rfl

section Run

variable {environment : Option String} {mode : Log.Mode} {tokens : List String} {s : Scan}
  {cells : List (List (List Char))} (hconfig : config.toList.head? ≠ some '-')
  (hload : Settings.load host config = .ok loaded)
  (hscan : scan loaded.definitions tokens = .ok s)
  (hmode : Log.Mode.ofName? (Log.Options.modeName {} environment) = some mode)

include hconfig hload hscan hmode

/-- A run of a scan that is asked for on the command line, in the session that it is set up with. -/
theorem exists_run_scanLine (strict : Bool) :
    ∃ session : Log.Session, session.streams = {} ∧
      run host environment (CommandLine.scanLine config strict tokens) =
        ((playAll host.dialect session
          (Report.scanActs strict loaded.definitions s)).mapError .markup).map
          (respond · (if strict && !s.tokens.isEmpty then 2 else 0)) := by
  obtain ⟨session, hquiet, hstreams, hrun⟩ :=
    runRequest_of_mode host (.parse config strict ("--" :: tokens)) hmode
  refine ⟨session, hstreams, ?_⟩
  -- The log message about the settings file and those of the scan do nothing.
  have hacts := playAll_debug_append host.dialect hquiet
    (loaded.message :: s.notices.map Notice.message) (Report.scanActs strict loaded.definitions s)
  have hreport : (Report.ofCommand host (.parse config strict ("--" :: tokens))).told
      (.parse config strict ("--" :: tokens)) =
        { acts := (loaded.message :: s.notices.map Notice.message).map Act.debug ++
            Report.scanActs strict loaded.definitions s
          outcome := .ok (if strict && !s.tokens.isEmpty then 2 else 0) } := by
    simp only [Report.ofCommand, Report.withDefinitions, hload, Report.parse_of_scan hscan]
    rfl
  simp only [run, CommandLine.read_scanLine _ hconfig, hrun, runCommand, hreport, hacts]
  cases playAll host.dialect session (Report.scanActs strict loaded.definitions s) <;> rfl

/-- A run of a scan whose cells show prints all that the scan asks for. -/
theorem run_scanLine_of_cells {refused : List Char}
    (hcells : shownRows (Report.rows loaded.definitions s.findings) host.dialect = .ok cells)
    (hrefused : Console.Markup.render (Report.refusal s.tokens).toList host.dialect = .ok refused)
    (strict : Bool) :
    run host environment (CommandLine.scanLine config strict tokens) =
      .ok {
        status := if strict && !s.tokens.isEmpty then 2 else 0
        output := printedScanOn host.dialect cells s.tokens ++
          if strict && !s.tokens.isEmpty then Console.printed refused else ""
        errors := "" } := by
  obtain ⟨session, hstreams, hrun⟩ := exists_run_scanLine hconfig hload hscan hmode strict
  obtain ⟨session', hplay, hstreams'⟩ := exists_playAll_scanActs hcells hrefused strict session
  rw [hrun, hplay]
  rw [hstreams] at hstreams'
  simp only [CommandLine.mapError_ok, Except.map, respond, hstreams', String.empty_append]

/-- A run of a scan is broken off if a cell does not show. -/
theorem run_scanLine_of_error {error : Console.Markup.Error}
    (hcells : shownRows (Report.rows loaded.definitions s.findings) host.dialect = .error error)
    (strict : Bool) :
    run host environment (CommandLine.scanLine config strict tokens) =
      .error (.markup error) := by
  obtain ⟨session, -, hrun⟩ := exists_run_scanLine hconfig hload hscan hmode strict
  rw [hrun, playAll_scanActs_of_error hcells]
  rfl

end Run

/-- In the files of a folder, and on a console without emoji, a scan that is not strict ends with
exit status zero if its cells show. -/
theorem run_scanLine_false_of_cells {folder : Files.Folder} {environment : Option String}
    {mode : Log.Mode} {tokens : List String} {s : Scan} {cells : List (List (List Char))}
    (hconfig : config.toList.head? ≠ some '-') (hload : Settings.load folder config = .ok loaded)
    (hscan : scan loaded.definitions tokens = .ok s)
    (hmode : Log.Mode.ofName? (Log.Options.modeName {} environment) = some mode)
    (hcells : shownRows (Report.rows loaded.definitions s.findings) = .ok cells) :
    run folder environment (CommandLine.scanLine config false tokens) =
      .ok { status := 0, output := printedScan cells s.tokens, errors := "" } := by
  obtain ⟨shown, hrefused⟩ := exists_render_refusal .plain s.tokens
  rw [run_scanLine_of_cells hconfig hload hscan hmode hcells hrefused]
  simp only [Host.dialect_ofFolder, printedScanOn_plain, Bool.false_and, Bool.false_eq_true,
    if_false, String.append_empty]

/-- An option without facets, whose value is the next token. -/
def plainOption : Definition where
  kind := .option
  name := "level"
  aliases := ["l"]
  facets := .none
  name_ne := by decide
  alias_ne := by decide

/-- A folder with a settings file for that option. -/
def optionFolder : Files.Folder :=
  .ofFiles [("a.toml", "[[arguments]]\nkind='option'\nname='level'\naliases=['l']\n")]

/-- The settings file gives that option. -/
theorem exists_load_optionFolder :
    ∃ loaded, Settings.load optionFolder "a.toml" = .ok loaded ∧
      loaded.definitions = [plainOption] := by
  have h : (Settings.load optionFolder "a.toml").toOption.map Settings.Loaded.definitions =
      some [plainOption] := by decide +kernel
  cases hload : Settings.load optionFolder "a.toml" with
  | error error =>
    rw [hload] at h
    contradiction
  | ok loaded =>
    rw [hload] at h
    exact ⟨loaded, rfl, Option.some.inj h⟩

end Program

end ArgScan
