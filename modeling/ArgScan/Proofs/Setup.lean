import ArgScan.Log.Session

/-!
# Setting up a session

What a setup does is said once: either the options succeed in a mode, and the session is made ready
for it (`setup_of_succeeds`), or they fail, and the session is left as far as the setup had come
(`setup_of_fails`). One of the two holds for any options (`succeeds_or_fails`).

A failed setup is not taken back. The level is set and the handlers are gone before anything can
fail, so that of the session before nothing but the texts written is left (`setup_failed_state`).
-/

namespace ArgScan.Log

variable {o : Options} {environment : Option String} {canOpen : String → Bool} {s : Session}

/-! ## What options ask for -/

/-- The name of the mode: that of the options, or else that of the environment, or else that of the
console in columns. An empty name counts as none. -/
inductive Options.Names (o : Options) (environment : Option String) : String → Prop
  /-- The options name it. -/
  | options {name : String} (h : o.mode = some name) (hne : name ≠ "") : Names o environment name
  /-- Only the environment names it. -/
  | environment {name : String} (hmode : o.mode = none ∨ o.mode = some "")
      (h : environment = some name) (hne : name ≠ "") : Names o environment name
  /-- Neither names it. -/
  | default (hmode : o.mode = none ∨ o.mode = some "")
      (h : environment = none ∨ environment = some "") : Names o environment "cli"

/-- The sink of a new handler for the console. -/
def Mode.sink : Mode → Sink
  | cli => .console false
  | json => .errors

/-- The new handler for the console. -/
def Options.consoleHandler (o : Options) (mode : Mode) : Handler :=
  { sink := mode.sink, level := o.consoleLevel }

/-- The new handlers: one for the console, and one for the file if a file is named. -/
def Options.handlers (o : Options) (mode : Mode) : List Handler :=
  match nonempty? o.file with
  | none => [o.consoleHandler mode]
  | some path =>
    [o.consoleHandler mode, { sink := .file path o.fileAsJson, level := o.fileLevel }]

/-- Options that a session can be set up with in a mode: they give its name, and the file, if one is
named, can be opened. -/
structure Options.Succeeds (o : Options) (canOpen : String → Bool) (environment : Option String)
    (mode : Mode) : Prop where
  /-- The name is that of the mode. -/
  name : o.Names environment mode.word
  /-- The file can be opened. -/
  canOpen : ∀ path, o.file = some path → path ≠ "" → canOpen path = true

/-- Options that a session cannot be set up with, the error, and the handlers that are there when it
arises. -/
inductive Options.Fails (o : Options) (canOpen : String → Bool) (environment : Option String) :
    SetupError → List Handler → Prop
  /-- There is no mode with the name. -/
  | mode {name : String} (hname : o.Names environment name)
      (hmode : ∀ mode : Mode, mode.word ≠ name) :
      Fails o canOpen environment (.invalidMode name) []
  /-- The file that is named cannot be opened. -/
  | file {mode : Mode} {path : String} (hname : o.Names environment mode.word)
      (hfile : o.file = some path) (hne : path ≠ "") (hopen : canOpen path = false) :
      Fails o canOpen environment (.cannotOpen path) [o.consoleHandler mode]

/-! ## Names -/

/-- A text that is there and not empty. -/
theorem nonempty?_eq_some_iff {text : Option String} {t : String} :
    nonempty? text = some t ↔ text = some t ∧ t ≠ "" := by
  rw [nonempty?, Option.filter_eq_some_iff, decide_eq_true_iff]

/-- A text that is not there or empty. -/
theorem nonempty?_eq_none_iff {text : Option String} :
    nonempty? text = none ↔ text = none ∨ text = some "" := by
  cases text with
  | none => exact ⟨fun _ => .inl rfl, fun _ => rfl⟩
  | some t => simp [nonempty?, Option.filter_some]

/-- The name of the mode is the one that is looked up. -/
theorem names_iff {name : String} : o.Names environment name ↔ o.modeName environment = name := by
  have hsome {text : Option String} {t : String} (h : text = some t) (hne : t ≠ "") :
      nonempty? text = some t := nonempty?_eq_some_iff.2 ⟨h, hne⟩
  unfold Options.modeName
  constructor
  · rintro (⟨h, hne⟩ | ⟨hmode, h, hne⟩ | ⟨hmode, h⟩)
    · rw [hsome h hne, Option.some_or, Option.getD_some]
    · rw [nonempty?_eq_none_iff.2 hmode, hsome h hne, Option.none_or, Option.getD_some]
    · rw [nonempty?_eq_none_iff.2 hmode, nonempty?_eq_none_iff.2 h]
      rfl
  · -- Each text is looked at only if those before it are none.
    intro hname
    cases hmode : nonempty? o.mode with
    | some t =>
      obtain ⟨h, hne⟩ := nonempty?_eq_some_iff.1 hmode
      rw [hmode] at hname
      exact hname ▸ .options h hne
    | none =>
      rw [hmode, Option.none_or] at hname
      cases henv : nonempty? environment with
      | some t =>
        obtain ⟨h, hne⟩ := nonempty?_eq_some_iff.1 henv
        rw [henv] at hname
        exact hname ▸ .environment (nonempty?_eq_none_iff.1 hmode) h hne
      | none =>
        rw [henv] at hname
        exact hname ▸ .default (nonempty?_eq_none_iff.1 hmode) (nonempty?_eq_none_iff.1 henv)

/-- A mode is found by its name. -/
theorem ofName?_word (mode : Mode) : Mode.ofName? mode.word = some mode := by
  cases mode <;> rfl

/-- A name by which a mode is found is that of the mode. -/
theorem word_of_ofName?_eq_some {name : String} {mode : Mode} (h : Mode.ofName? name = some mode) :
    mode.word = name := by
  unfold Mode.ofName? at h
  split at h
  · obtain rfl := Option.some.inj h
    rfl
  · obtain rfl := Option.some.inj h
    rfl
  · exact nomatch h

/-- The mode whose name the options give is found. -/
theorem ofName?_of_names {mode : Mode} (h : o.Names environment mode.word) :
    Mode.ofName? (o.modeName environment) = some mode := by
  rw [names_iff.1 h, ofName?_word]

/-- No mode is found by a name that none has. -/
theorem ofName?_eq_none_iff {name : String} :
    Mode.ofName? name = none ↔ ∀ mode : Mode, mode.word ≠ name := by
  constructor
  · rintro h mode rfl
    exact nomatch (ofName?_word mode).symm.trans h
  · intro h
    cases hname : Mode.ofName? name with
    | none => rfl
    | some mode => exact absurd (word_of_ofName?_eq_some hname) (h mode)

/-! ## What a setup does -/

/-- Any options succeed in a mode or fail. -/
theorem succeeds_or_fails (o : Options) (canOpen : String → Bool) (environment : Option String) :
    (∃ mode, o.Succeeds canOpen environment mode) ∨
      ∃ error left, o.Fails canOpen environment error left := by
  -- The name is looked up first, and a file is opened only in a mode that exists.
  have hname : o.Names environment (o.modeName environment) := names_iff.2 rfl
  cases hmode : Mode.ofName? (o.modeName environment) with
  | none => exact .inr ⟨_, _, .mode hname (ofName?_eq_none_iff.1 hmode)⟩
  | some mode =>
    rw [← word_of_ofName?_eq_some hmode] at hname
    cases hfile : nonempty? o.file with
    | none =>
      refine .inl ⟨mode, hname, fun path hpath hne => ?_⟩
      exact nomatch hfile.symm.trans (nonempty?_eq_some_iff.2 ⟨hpath, hne⟩)
    | some path =>
      obtain ⟨hpath, hne⟩ := nonempty?_eq_some_iff.1 hfile
      cases hopen : canOpen path with
      | false => exact .inr ⟨_, _, .file hname hpath hne hopen⟩
      | true =>
        refine .inl ⟨mode, hname, fun path' hpath' _ => ?_⟩
        obtain rfl := Option.some.inj (hpath.symm.trans hpath')
        exact hopen

namespace Session

/-- The session with the handlers that the options ask for, before its first record. -/
def prepared (s : Session) (o : Options) (mode : Mode) : Session where
  level := debugLevel
  handlers := o.handlers mode
  streams := match nonempty? o.file with
    | none => s.streams
    | some path => s.streams.openFile path

/-- Options that succeed give the prepared session, in which the mode is told as a debug message. -/
theorem setup_of_succeeds {mode : Mode} (h : o.Succeeds canOpen environment mode) :
    s.setup canOpen o environment =
      ((s.prepared o mode).debug ("Logging initialized in '" ++ mode.word ++ "' mode."), none) := by
  obtain ⟨hname, hopen⟩ := h
  simp only [setup, names_iff.1 hname]
  unfold prepared Options.handlers
  -- The mode decides on the sink for the console alone, so that both modes go the same way.
  cases hfile : nonempty? o.file with
  | none => cases mode <;> rfl
  | some path =>
    obtain ⟨hpath, hne⟩ := nonempty?_eq_some_iff.1 hfile
    simp only [hopen path hpath hne, if_true]
    cases mode <;> rfl

/-- Options that fail leave the session with the handlers that were there when the error arose. -/
theorem setup_of_fails {error : SetupError} {left : List Handler}
    (h : o.Fails canOpen environment error left) :
    s.setup canOpen o environment =
      ({ s with level := debugLevel, handlers := left }, some error) := by
  cases h with
  | mode hname hmode =>
    simp only [setup, names_iff.1 hname, ofName?_eq_none_iff.2 hmode]
    rfl
  | @file mode path hname hfile hne hopen =>
    have hpath : nonempty? o.file = some path := nonempty?_eq_some_iff.2 ⟨hfile, hne⟩
    simp only [setup, ofName?_of_names hname, hpath, hopen]
    cases mode <;> rfl

/-- A setup ends well exactly if its options succeed in a mode. -/
theorem setup_snd_eq_none_iff :
    (s.setup canOpen o environment).2 = none ↔ ∃ mode, o.Succeeds canOpen environment mode := by
  constructor
  · intro hnone
    obtain hsucceeds | ⟨error, left, hfails⟩ := succeeds_or_fails o canOpen environment
    · exact hsucceeds
    · rw [setup_of_fails hfails] at hnone
      exact nomatch hnone
  · rintro ⟨mode, hsucceeds⟩
    rw [setup_of_succeeds hsucceeds]

/-- A setup ends in an error exactly if its options fail with it. -/
theorem setup_snd_eq_some_iff {error : SetupError} :
    (s.setup canOpen o environment).2 = some error ↔
      ∃ left, o.Fails canOpen environment error left := by
  constructor
  · intro hsome
    obtain ⟨mode, hsucceeds⟩ | ⟨error', left, hfails⟩ := succeeds_or_fails o canOpen environment
    · rw [setup_of_succeeds hsucceeds] at hsome
      exact nomatch hsome
    · rw [setup_of_fails hfails] at hsome
      obtain rfl := Option.some.inj hsome
      exact ⟨left, hfails⟩
  · rintro ⟨left, hfails⟩
    rw [setup_of_fails hfails]

/-- What a failed setup leaves of a session, whatever the session was. A setup fails exactly if its
options do; then the level is that of debug messages, every handler of before is gone, and those
that the setup had made by then are there. So level and handlers are as before exactly if they were
these already. -/
theorem setup_failed_state (canOpen : String → Bool) (o : Options) (environment : Option String)
    (s : Session) (error : SetupError) :
    ((s.setup canOpen o environment).2 = some error ↔
      ∃ left, o.Fails canOpen environment error left) ∧
    ∀ left, o.Fails canOpen environment error left →
      (s.setup canOpen o environment).1 = { s with level := debugLevel, handlers := left } ∧
      ((s.setup canOpen o environment).1.level = s.level ∧
          (s.setup canOpen o environment).1.handlers = s.handlers ↔
        s.level = debugLevel ∧ s.handlers = left) := by
  refine ⟨setup_snd_eq_some_iff, fun left hfails => ?_⟩
  rw [setup_of_fails hfails]
  exact ⟨rfl, and_congr eq_comm eq_comm⟩

/-- The setup fails for a name from the environment, and nothing is left of the two handlers of a
session that was set up before. -/
theorem setup_failed_state_environment :
    ∃ s : Session, s.handlers.length = 2 ∧
      (s.setup (fun _ => true) { mode := some "" } (some "xml")).2 = some (.invalidMode "xml") ∧
      (s.setup (fun _ => true) { mode := some "" } (some "xml")).1.handlers = [] := by
  have hnone : ∀ mode : Mode, mode.word ≠ "xml" := by
    intro mode
    cases mode <;> decide
  have hfails : Options.Fails { mode := some "" } (fun _ => true) (some "xml")
      (.invalidMode "xml") [] := .mode (.environment (.inr rfl) rfl (by decide)) hnone
  let s : Session := prepared {} { file := some "run.log" } .json
  obtain ⟨hiff, hstate⟩ := setup_failed_state (fun _ => true) { mode := some "" } (some "xml") s
    (.invalidMode "xml")
  exact ⟨s, rfl, hiff.2 ⟨[], hfails⟩, congrArg Session.handlers (hstate [] hfails).1⟩

/-- A failed setup need not leave a session as it was: with a mode that does not exist, the handler
of a session for warnings is gone, and its level is another one. -/
theorem exists_failed_setup_changes :
    ∃ (s : Session) (o : Options) (error : SetupError),
      (s.setup (fun _ => true) o none).2 = some error ∧
        (s.setup (fun _ => true) o none).1.level ≠ s.level ∧
        (s.setup (fun _ => true) o none).1.handlers ≠ s.handlers :=
  ⟨{ handlers := [{ sink := .errors, level := warningLevel }] }, { mode := some "xml" },
    .invalidMode "xml", by decide, by decide, by decide⟩

end Session

end ArgScan.Log
