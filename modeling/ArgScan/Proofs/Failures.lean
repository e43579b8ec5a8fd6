import ArgScan.Proofs.Entries
import ArgScan.Proofs.Lines
import ArgScan.Proofs.Printing
import ArgScan.Proofs.RenderLine

/-!
# Settings files that give no definitions

A command whose settings file gives no definitions does nothing else. The error is told, in a text
that begins with a label and with exit status one, or it ends the run. Which of both it is does not
depend on the command (`run_of_load_error`), but on the cause. There are seven causes
(`load_eq_error_iff`). Four of them can end the run (`EndsRun`): the host fails to look up the file,
to open it or to read its text, in a way that the program does not count on, or the first entry at
fault has a key that is no text (`isTold_eq_false_iff`).

Nothing is assumed of the host. Its readers may fail as they like, and what they do on some text is
looked at in the examples alone.
-/

namespace ArgScan

namespace Settings

variable {host : Host} {config : String} {e : FileError}

/-! ## Keys and aliases of an entry -/

/-- An entry that passes is refused for an alias alone. -/
theorem Entry.toDefinition_ne_aliasesNotIterable (entry : Entry) :
    entry.toDefinition ≠ .error .aliasesNotIterable := by
  unfold toDefinition Definition.ofKind
  rw [Ne, Draft.toDefinition_eq_error_iff, Draft.refuses_aliasesNotIterable_iff]
  rintro ⟨-, -, -, h⟩
  exact nomatch h

/-- The aliases of an entry are a list when they are checked as those of a definition. -/
theorem readEntry_ne_aliasesNotIterable (position : Nat) (d : Datum) :
    readEntry position d ≠ .error (.draft .aliasesNotIterable) := by
  by_cases hmapping : ∃ fields, d = .mapping fields
  · obtain ⟨fields, rfl⟩ := hmapping
    by_cases hkeys : ∀ field ∈ fields, ∃ key, field.1 = .text key
    · cases hentry : Entry.ofFields fields with
      | error faults =>
        rw [readEntry_of_faults hkeys hentry]
        split_ifs <;> exact nofun
      | ok entry =>
        have hne := entry.toDefinition_ne_aliasesNotIterable
        rw [readEntry_of_ofFields hkeys hentry]
        cases hdefinition : entry.toDefinition with
        | error error =>
          rw [hdefinition] at hne
          exact fun h => hne (congrArg Except.error (EntryError.draft.inj (Except.error.inj h)))
        | ok definition => exact nofun
    · rw [readEntry_of_not_keys hkeys]
      exact nofun
  · rw [readEntry_of_not_mapping fun fields h => hmapping ⟨fields, h⟩]
    exact nofun

/-- An entry is refused for its keys exactly if it is a mapping with a key that is no text. -/
theorem readEntry_eq_keyNotText_iff {position : Nat} {d : Datum} :
    readEntry position d = .error .keyNotText ↔
      ∃ fields, d = .mapping fields ∧ ∃ field ∈ fields, ∀ key, field.1 ≠ .text key := by
  constructor
  · intro h
    by_cases hmapping : ∃ fields, d = .mapping fields
    · obtain ⟨fields, rfl⟩ := hmapping
      refine ⟨fields, rfl, ?_⟩
      by_contra hnone
      have hkeys : ∀ field ∈ fields, ∃ key, field.1 = .text key := fun field hfield =>
        not_forall_not.1 fun hkey => hnone ⟨field, hfield, hkey⟩
      cases hentry : Entry.ofFields fields with
      | error faults =>
        rw [readEntry_of_faults hkeys hentry] at h
        split_ifs at h <;> exact nomatch h
      | ok entry =>
        rw [readEntry_of_ofFields hkeys hentry] at h
        cases hdefinition : entry.toDefinition with
        | error error =>
          rw [hdefinition] at h
          exact nomatch h
        | ok definition =>
          rw [hdefinition] at h
          exact nomatch h
    · rw [readEntry_of_not_mapping fun fields hd => hmapping ⟨fields, hd⟩] at h
      exact nomatch h
  · rintro ⟨fields, rfl, field, hfield, hkey⟩
    exact readEntry_of_not_keys (fun hkeys => (hkeys field hfield).elim hkey) position

/-! ## The causes of an error -/

/-- There is a file under a path, which opens, with a text in the language of its suffix. -/
structure Opens (host : Host) (config : String) (language : Language) (text : String) : Prop where
  /-- The file is there. -/
  isFile : host.isFile (.ofText config) = .ok true
  /-- It opens. -/
  openFile : host.openFile (.ofText config) = .ok text
  /-- Its suffix stands for the language. -/
  ofSuffix : Language.ofSuffix? (Files.Path.ofText config).suffix = some language

/-- The causes of an error with the settings file under a path, in the order in which they are met.
-/
inductive Fails (host : Host) (config : String) : FileError → Prop
  /-- The path cannot be looked up. -/
  | lookUp {error : HostError} (h : host.isFile (.ofText config) = .error error) :
    Fails host config (.host error)
  /-- There is no file. -/
  | missing (h : host.isFile (.ofText config) = .ok false) : Fails host config (.missing config)
  /-- The file does not open. -/
  | opening {error : HostError} (hfile : host.isFile (.ofText config) = .ok true)
    (h : host.openFile (.ofText config) = .error error) : Fails host config (.host error)
  /-- The suffix stands for no language. -/
  | unsupported {text : String} (hfile : host.isFile (.ofText config) = .ok true)
    (hopen : host.openFile (.ofText config) = .ok text)
    (h : Language.ofSuffix? (Files.Path.ofText config).suffix = none) :
    Fails host config (.unsupported (Files.Path.ofText config).suffix)
  /-- The text cannot be read. -/
  | reading {language : Language} {text : String} {error : HostError}
    (hopens : Opens host config language text) (h : host.read language text = .error error) :
    Fails host config (.host error)
  /-- The value of the text lists no entries. -/
  | shape {language : Language} {text : String} {d : Datum} {error : FileError}
    (hopens : Opens host config language text) (hread : host.read language text = .ok d)
    (h : entriesOf d = .error error) : Fails host config .shape
  /-- An entry is at fault. -/
  | entry {language : Language} {text : String} {d : Datum} {entries : List Datum}
    {error : EntryError} (hopens : Opens host config language text)
    (hread : host.read language text = .ok d) (hentries : entriesOf d = .ok entries)
    (h : readEntries entries = .error error) : Fails host config (.entry error)

/-- A value that lists no entries has the wrong shape. -/
theorem eq_shape_of_entriesOf {d : Datum} (h : entriesOf d = .error e) : e = .shape := by
  unfold entriesOf at h
  split at h
  · split at h
    · exact nomatch h
    · exact (Except.error.inj h).symm
  · exact (Except.error.inj h).symm

/-- The definitions of a file that opens come from the entries that its text lists. -/
theorem Opens.load_eq {language : Language} {text : String}
    (h : Opens host config language text) :
    load host config = (do
      let entries ← entriesOf (← (host.read language text).mapError .host)
      return {
        path := .ofText config
        definitions := ← (readEntries entries).mapError .entry }) := by
  unfold load
  simp only [h.isFile, h.openFile, h.ofSuffix]
  rfl

/-- An error is the one that its cause gives. -/
theorem Fails.load_eq (h : Fails host config e) : load host config = .error e := by
  cases h with
  | lookUp h => simp only [load, h]; rfl
  | missing h => simp only [load, h]; rfl
  | opening hfile h => simp only [load, hfile, h]; rfl
  | unsupported hfile hopen h => simp only [load, hfile, hopen, h]; rfl
  | reading hopens h => rw [hopens.load_eq, h]; rfl
  | shape hopens hread h =>
    rw [hopens.load_eq, hread]
    simp only [CommandLine.mapError_ok, bind, Except.bind, h, eq_shape_of_entriesOf h]
  | entry hopens hread hentries h =>
    rw [hopens.load_eq, hread]
    simp only [CommandLine.mapError_ok, bind, Except.bind, hentries, h]
    rfl

/-- A file opens, or there is a cause of an error before that. -/
theorem opens_or_fails (host : Host) (config : String) :
    (∃ language text, Opens host config language text) ∨ ∃ e, Fails host config e := by
  cases hfile : host.isFile (.ofText config) with
  | error error => exact .inr ⟨_, .lookUp hfile⟩
  | ok found =>
    cases found with
    | false => exact .inr ⟨_, .missing hfile⟩
    | true =>
      cases hopen : host.openFile (.ofText config) with
      | error error => exact .inr ⟨_, .opening hfile hopen⟩
      | ok text =>
        cases hsuffix : Language.ofSuffix? (Files.Path.ofText config).suffix with
        | none => exact .inr ⟨_, .unsupported hfile hopen hsuffix⟩
        | some language => exact .inl ⟨language, text, hfile, hopen, hsuffix⟩

/-- A file that opens gives definitions, or there is a cause of an error. -/
theorem Opens.exists_load_or_fails {language : Language} {text : String}
    (hopens : Opens host config language text) :
    (∃ loaded, load host config = .ok loaded) ∨ ∃ e, Fails host config e := by
  cases hread : host.read language text with
  | error error => exact .inr ⟨_, .reading hopens hread⟩
  | ok d =>
    cases hentries : entriesOf d with
    | error error => exact .inr ⟨_, .shape hopens hread hentries⟩
    | ok entries =>
      cases hdefinitions : readEntries entries with
      | error error => exact .inr ⟨_, .entry hopens hread hentries hdefinitions⟩
      | ok definitions =>
        refine .inl ⟨{ path := .ofText config, definitions }, ?_⟩
        rw [hopens.load_eq, hread]
        simp only [CommandLine.mapError_ok, bind, Except.bind, hentries, hdefinitions]
        rfl

/-- The errors with a settings file are those that have one of the causes. -/
theorem load_eq_error_iff : load host config = .error e ↔ Fails host config e := by
  refine ⟨fun hload => ?_, Fails.load_eq⟩
  obtain ⟨loaded, hloaded⟩ | ⟨e', hfails⟩ :
      (∃ loaded, load host config = .ok loaded) ∨ ∃ e', Fails host config e' := by
    rcases opens_or_fails host config with ⟨language, text, hopens⟩ | hfails
    · exact hopens.exists_load_or_fails
    · exact .inr hfails
  · cases hload.symm.trans hloaded
  · obtain rfl := Except.error.inj (hload.symm.trans hfails.load_eq)
    exact hfails

/-- What makes an error with the settings file under a path end the run. -/
inductive EndsRun (host : Host) (config : String) : Prop
  /-- The path cannot be looked up, in a way that the program does not count on. -/
  | lookUp {error : HostError} (h : host.isFile (.ofText config) = .error error)
    (hkind : error.kind.isExpected = false)
  /-- The file does not open, in a way that the program does not count on. -/
  | opening {error : HostError} (hfile : host.isFile (.ofText config) = .ok true)
    (h : host.openFile (.ofText config) = .error error) (hkind : error.kind.isExpected = false)
  /-- The text cannot be read, in a way that the program does not count on. -/
  | reading {language : Language} {text : String} {error : HostError}
    (hopens : Opens host config language text) (h : host.read language text = .error error)
    (hkind : error.kind.isExpected = false)
  /-- The first entry that is at fault has a key that is no text. -/
  | key {language : Language} {text : String} {d : Datum} {before after : List Datum}
    {fields : List (Datum × Datum)} {definitions : List Definition}
    (hopens : Opens host config language text) (hread : host.read language text = .ok d)
    (hentries : entriesOf d = .ok (before ++ .mapping fields :: after))
    (hbefore : readEntries before = .ok definitions)
    (hkey : ∃ field ∈ fields, ∀ key, field.1 ≠ .text key)

/-- The errors with a settings file are told, but for those that end the run. -/
theorem isTold_eq_false_iff (hload : load host config = .error e) :
    (Failure.file e).isTold = false ↔ EndsRun host config := by
  constructor
  · intro htold
    cases load_eq_error_iff.1 hload with
    | lookUp h => exact .lookUp h htold
    | opening hfile h => exact .opening hfile h htold
    | reading hopens h => exact .reading hopens h htold
    | missing | unsupported | shape => exact nomatch htold
    | @entry language text d entries error hopens hread hentries h =>
      obtain ⟨before, d', after, definitions, rfl, hbefore, hentry⟩ :=
        exists_of_readEntriesFrom_eq_error h
      cases error with
      | keyNotText =>
        obtain ⟨fields, rfl, hkey⟩ := readEntry_eq_keyNotText_iff.1 hentry
        exact .key hopens hread hentries hbefore hkey
      | notMapping | invalid | unwritable => exact nomatch htold
      | draft error =>
        cases error with
        | aliasesNotIterable => exact absurd hentry (readEntry_ne_aliasesNotIterable _ d')
        | _ => exact nomatch htold
  · intro hends
    -- There is one error only, that of the cause.
    have htold {e' : FileError} (hfails : Fails host config e')
        (hfalse : (Failure.file e').isTold = false) : (Failure.file e).isTold = false := by
      obtain rfl := Except.error.inj (hload.symm.trans (load_eq_error_iff.2 hfails))
      exact hfalse
    cases hends with
    | lookUp h hkind => exact htold (.lookUp h) hkind
    | opening hfile h hkind => exact htold (.opening hfile h) hkind
    | reading hopens h hkind => exact htold (.reading hopens h) hkind
    | @key language text d before after fields definitions hopens hread hentries hbefore hkey =>
      have hentry : readEntries (before ++ .mapping fields :: after) = .error .keyNotText :=
        readEntriesFrom_append_of_error hbefore
          (readEntry_eq_keyNotText_iff.2 ⟨fields, rfl, hkey⟩) after
      exact htold (.entry hopens hread hentries hentry) rfl

end Settings

namespace CommandLine

/-- The settings file of a command. -/
def Command.config : Command → String
  | format config _ _ | parse config _ _ => config

end CommandLine

namespace Program

variable {host : Host} {e : Settings.FileError}

/-- The label of a line that tells a failure. -/
def errorLabel : List Char := "Error:".toList

/-- A command whose settings file gives no definitions reports nothing but the failure. -/
theorem ofCommand_of_load_error {command : CommandLine.Command}
    (hload : Settings.load host command.config = .error e) :
    Report.ofCommand host command = { acts := [], outcome := .error (.file e) } := by
  cases command <;>
    simp only [CommandLine.Command.config] at hload <;>
    simp only [Report.ofCommand, Report.withDefinitions, hload]

section Session

variable {command : CommandLine.Command} {messages : List String} {failure : Failure}
  (hreport : Report.ofCommand host command =
    { acts := messages.map Act.debug, outcome := .error failure })

include hreport

/-- A failure that is told makes a text that begins with the label, and exit status one. -/
theorem exists_runCommand_of_isTold (htold : failure.isTold = true) {session : Log.Session}
    (hquiet : session.IsQuiet) (hstreams : session.streams = {}) :
    ∃ output, errorLabel <+: output.toList ∧
      runCommand host command session = .ok { status := 1, output, errors := "" } := by
  obtain ⟨shown, hshown⟩ : ∃ shown,
      Console.Markup.render ("[red]Error:[/] " ++ Report.escaped failure.message).toList
        host.dialect = .ok (errorLabel ++ ' ' :: shown) :=
    exists_render_label host.dialect rfl (by decide) (by decide) (by decide) (by decide)
      failure.message
  refine ⟨Console.printed (errorLabel ++ ' ' :: shown),
    Console.prefix_printed (by decide) (by decide) shown, ?_⟩
  -- All messages are for the log, where nothing of them is written.
  let failed := "Command '" ++ Report.commandName command ++ "' failed"
  have hacts := playAll_debug_append host.dialect hquiet (messages ++ [failed])
    [.markup ("[red]Error:[/] " ++ Report.escaped failure.message)]
  rw [List.map_append, List.append_assoc] at hacts
  have htext : (Report.ofCommand host command).told command =
      { acts := messages.map Act.debug ++ ([failed].map Act.debug ++
          [.markup ("[red]Error:[/] " ++ Report.escaped failure.message)])
        outcome := .ok 1 } := by
    simp only [hreport, Report.told, htold, if_true]
    rfl
  simp only [runCommand, htext, hacts, playAll, play, hshown]
  simp only [CommandLine.mapError_ok, Except.map, bind, Except.bind]
  simp only [respond, Log.Session.write, hstreams, String.empty_append]
  rfl

/-- A failure that is not told ends the run. -/
theorem runCommand_of_not_isTold (htold : failure.isTold = false) {session : Log.Session}
    (hquiet : session.IsQuiet) : runCommand host command session = .error (.failure failure) := by
  have hacts := playAll_debug_append host.dialect hquiet messages []
  rw [List.append_nil] at hacts
  simp only [runCommand, hreport, Report.told, htold, Bool.false_eq_true, if_false, hacts, playAll]
  rfl

end Session

/-- A run of a command whose settings file gives no definitions tells the failure, unless it is one
of those that end the run. -/
theorem run_of_load_error {argv : List String} {config : String} {command : CommandLine.Command}
    (hconfig : command.config = config)
    (hread : CommandLine.Request.read name argv = .ok { command := some command })
    (hload : Settings.load host config = .error e) :
    (¬ Settings.EndsRun host config → ∃ output, errorLabel <+: output.toList ∧
      run host none argv = .ok { status := 1, output, errors := "" }) ∧
    (Settings.EndsRun host config → run host none argv = .error (.failure (.file e))) := by
  obtain ⟨session, hquiet, hstreams, hrun⟩ :=
    runRequest_of_mode host command Log.ofName?_modeName_none
  subst hconfig
  have hreport := ofCommand_of_load_error hload
  rw [← List.map_nil (f := Act.debug)] at hreport
  have htold := Settings.isTold_eq_false_iff hload
  simp only [run, hread, hrun]
  constructor
  · intro hends
    have htrue : (Failure.file e).isTold = true := eq_true_of_ne_false (mt htold.1 hends)
    exact exists_runCommand_of_isTold hreport htrue hquiet hstreams
  · intro hends
    exact runCommand_of_not_isTold hreport (htold.2 hends) hquiet

/-! ## Command lines with an unusable settings file -/

/-- The command lines that ask for a scan of some tokens and for the rendering of a definition. -/
def commandLines (config query : String) (tokens : List String) : List (List String) :=
  [CommandLine.scanLine config false tokens, CommandLine.renderLine config query none]

/-- Both command lines are read as requests for commands with the settings file. -/
theorem exists_read_of_mem_commandLines {config query : String}
    (hconfig : config.toList.head? ≠ some '-') (hquery : query.toList.head? ≠ some '-')
    (tokens : List String) :
    ∀ argv ∈ commandLines config query tokens, ∃ command : CommandLine.Command,
      command.config = config ∧
      CommandLine.Request.read name argv = .ok { command := some command } := by
  rintro argv (_ | ⟨_, _ | ⟨_, ⟨⟩⟩⟩)
  · exact ⟨_, rfl, CommandLine.read_scanLine name hconfig false tokens⟩
  · exact ⟨_, rfl, CommandLine.read_renderLine name hconfig hquery none⟩

/-- With no log mode in the environment, and whatever the host gives, an error with the settings
file either is told, in a text that begins with the label and with exit status one, or ends the run.
It ends the run exactly if the host fails to look up the file, to open it or to read its text in a
way that the program does not count on, or the first entry at fault has a key that is no text. -/
theorem run_commandLines_of_load_error {config query : String}
    (hconfig : config.toList.head? ≠ some '-') (hquery : query.toList.head? ≠ some '-')
    (hload : Settings.load host config = .error e) (tokens : List String) :
    ∀ argv ∈ commandLines config query tokens,
      (¬ Settings.EndsRun host config → ∃ output, errorLabel <+: output.toList ∧
        run host none argv = .ok { status := 1, output, errors := "" }) ∧
      (Settings.EndsRun host config → run host none argv = .error (.failure (.file e))) := by
  intro argv hargv
  obtain ⟨command, hcommand, hread⟩ :=
    exists_read_of_mem_commandLines hconfig hquery tokens argv hargv
  exact run_of_load_error hcommand hread hload

/-- A folder with one file. -/
def oneFile (path text : String) : Files.Folder := .ofFiles [(path, text)]

/-- The error of the host that an outcome is, if it is one. -/
def hostError? : Except Settings.FileError Settings.Loaded → Option HostError
  | .error (.host error) => some error
  | _ => none

/-- An outcome is the error of the host that it is found to be. -/
theorem eq_of_hostError? {outcome : Except Settings.FileError Settings.Loaded} {error : HostError}
    (h : hostError? outcome = some error) : outcome = .error (.host error) := by
  unfold hostError? at h
  split at h
  · rw [Option.some.inj h]
  · contradiction

/-- A bracket that is not closed is no TOML. -/
theorem load_openTable :
    Settings.load (oneFile "a.toml" "[[arguments]") "a.toml" =
      .error (.host Toml.Error.malformed.raised) :=
  eq_of_hostError? (by decide +kernel)

/-- A text that is no TOML is told. -/
theorem run_commandLines_of_load_error_openTable :
    "a.toml".toList.head? ≠ some '-' ∧ "level".toList.head? ≠ some '-' ∧
    Settings.load (oneFile "a.toml" "[[arguments]") "a.toml" =
      .error (.host Toml.Error.malformed.raised) ∧
    ∀ argv ∈ commandLines "a.toml" "level" ["-l"], ∃ output, errorLabel <+: output.toList ∧
      run (oneFile "a.toml" "[[arguments]") none argv =
        .ok { status := 1, output, errors := "" } := by
  have hconfig : "a.toml".toList.head? ≠ some '-' := by decide
  have hquery : "level".toList.head? ≠ some '-' := by decide
  have htold : ¬ Settings.EndsRun (oneFile "a.toml" "[[arguments]") "a.toml" := fun hends =>
    nomatch (Settings.isTold_eq_false_iff load_openTable).2 hends
  exact ⟨hconfig, hquery, load_openTable, fun argv hargv =>
    (run_commandLines_of_load_error hconfig hquery load_openTable ["-l"] argv hargv).1 htold⟩

/-- A bracket that is not closed is no YAML. -/
theorem load_openList :
    Settings.load (oneFile "a.yaml" "arguments: [") "a.yaml" =
      .error (.host Yaml.Error.malformed.raised) :=
  eq_of_hostError? (by decide +kernel)

/-- A number as the key of an entry is no text. -/
theorem load_numberKey :
    Settings.load (oneFile "a.yaml" "arguments:\n- 1: x\n") "a.yaml" =
      .error (.entry .keyNotText) := by
  have h : (match Settings.load (oneFile "a.yaml" "arguments:\n- 1: x\n") "a.yaml" with
    | .error (.entry .keyNotText) => true
    | _ => false) = true := by decide +kernel
  generalize Settings.load _ _ = result at h ⊢
  split at h
  · rfl
  · contradiction

/-- No table can be added to a number. -/
theorem load_numberAsArray :
    Settings.load (oneFile "a.toml" "a=1\n[[a]]\n") "a.toml" =
      .error (.host Toml.Error.notArray.raised) :=
  eq_of_hostError? (by decide +kernel)

/-- A text that is no YAML ends the run, and so does an entry with a number for a key, and a text
that is TOML and adds a table to a number. -/
theorem exists_load_error_ends_run :
    "a.yaml".toList.head? ≠ some '-' ∧ "a.toml".toList.head? ≠ some '-' ∧
    "level".toList.head? ≠ some '-' ∧
    (∀ argv ∈ commandLines "a.yaml" "level" ["-l"],
      run (oneFile "a.yaml" "arguments: [") none argv =
        .error (.failure (.file (.host Yaml.Error.malformed.raised)))) ∧
    (∀ argv ∈ commandLines "a.yaml" "level" ["-l"],
      run (oneFile "a.yaml" "arguments:\n- 1: x\n") none argv =
        .error (.failure (.file (.entry .keyNotText)))) ∧
    ∀ argv ∈ commandLines "a.toml" "level" ["-l"],
      run (oneFile "a.toml" "a=1\n[[a]]\n") none argv =
        .error (.failure (.file (.host Toml.Error.notArray.raised))) := by
  have hyaml : "a.yaml".toList.head? ≠ some '-' := by decide
  have htoml : "a.toml".toList.head? ≠ some '-' := by decide
  have hquery : "level".toList.head? ≠ some '-' := by decide
  have hends {folder : Files.Folder} {config : String} {e : Settings.FileError}
      (hconfig : config.toList.head? ≠ some '-') (hload : Settings.load folder config = .error e)
      (htold : (Failure.file e).isTold = false) :
      ∀ argv ∈ commandLines config "level" ["-l"],
        run folder none argv = .error (.failure (.file e)) := by
    intro argv hargv
    obtain ⟨command, hcommand, hread⟩ :=
      exists_read_of_mem_commandLines hconfig hquery _ argv hargv
    exact (run_of_load_error hcommand hread hload).2 ((Settings.isTold_eq_false_iff hload).1 htold)
  exact ⟨hyaml, htoml, hquery, hends hyaml load_openList rfl, hends hyaml load_numberKey rfl,
    hends htoml load_numberAsArray rfl⟩

end Program

end ArgScan
