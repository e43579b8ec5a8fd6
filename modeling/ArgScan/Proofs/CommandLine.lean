import ArgScan.CommandLine.Request

/-!
# Command lines that ask for a scan

A command line is read twice: by the grammar of the program, which gives the word for the command
and all words behind it to the place for commands, and by the grammar of that command. This module
follows both on a command line that asks for a scan, with the tokens behind a divider (`scanLine`).

Each grammar looks at every word before it takes any. Only the words before the divider can name an
option, and whatever the tokens look like, they are plain (`words_divider`). So the first reading
finds options that it does not know, but its place takes them with all other words
(`read_rootGrammar`). The second takes its options first, and then its place takes the divider and
the tokens as they are (`read_parseGrammar`). The request that comes out has the divider in front of
the tokens (`read_scanLine`), from where the command drops it again.
-/

namespace ArgScan.CommandLine

/-- What does not fail is the same whatever a failure would be told as. -/
theorem mapError_ok {α ε ε' : Type} (f : ε → ε') (a : α) :
    Except.mapError f (.ok a) = .ok a := rfl

/-- The words behind the command for a scan: the settings file, the option for a strict scan if it
is asked for, a divider, and the tokens. -/
def scanWords (config : String) (strict : Bool) (tokens : List String) : List String :=
  "-c" :: config :: ((if strict then ["--strict"] else []) ++ "--" :: tokens)

/-- The command line that asks for a scan. -/
def scanLine (config : String) (strict : Bool) (tokens : List String) : List String :=
  "parse" :: scanWords config strict tokens

/-! ## Words -/

namespace Grammar

variable {g : Grammar}

/-- A word without a leading hyphen is plain. -/
theorem kindOf_of_head? {text : String} (h : text.toList.head? ≠ some '-') :
    g.kindOf text = .ok .plain := if_pos h

/-- A word that is not the divider is looked at by itself. -/
theorem words_cons {text : String} {kind : WordKind} {rest : List String} {ws : List Word}
    (hne : text ≠ "--") (hkind : g.kindOf text = .ok kind) (hrest : g.words rest = .ok ws) :
    g.words (text :: rest) = .ok ({ text, kind } :: ws) := by
  rw [words.eq_3 g text rest hne, hkind, hrest]
  rfl

/-- A word without a leading hyphen is plain, and the others are looked at by themselves. -/
theorem words_cons_of_head? {text : String} {rest : List String} {ws : List Word}
    (h : text.toList.head? ≠ some '-') (hrest : g.words rest = .ok ws) :
    g.words (text :: rest) = .ok ({ text, kind := .plain } :: ws) := by
  apply words_cons _ (kindOf_of_head? h) hrest
  rintro rfl
  exact absurd h (by decide)

/-- Looking at words does not change them. -/
theorem map_text_words {argv : List String} {ws : List Word} (h : g.words argv = .ok ws) :
    ws.map Word.text = argv := by
  induction argv generalizing ws with
  | nil =>
    cases h
    rfl
  | cons text rest ih =>
    by_cases hne : text = "--"
    · subst hne
      cases h
      rw [List.map_cons, List.map_map]
      exact congrArg ("--" :: ·) (List.map_id rest)
    · rw [words.eq_3 g text rest hne] at h
      cases hkind : g.kindOf text with
      | error fault =>
        rw [hkind] at h
        cases h
      | ok kind =>
        cases hrest : g.words rest with
        | error fault =>
          rw [hkind, hrest] at h
          cases h
        | ok ws' =>
          rw [hkind, hrest] at h
          cases h
          rw [List.map_cons, ih hrest]

end Grammar

/-- The divider and the tokens behind it. -/
def dividedWords (tokens : List String) : List Word :=
  { text := "--", kind := .divider } :: tokens.map fun text => { text, kind := .plain }

/-- Behind the divider every token is plain. -/
theorem Grammar.words_divider (g : Grammar) (tokens : List String) :
    g.words ("--" :: tokens) = .ok (dividedWords tokens) := rfl

/-- No word names an option from the divider on. -/
theorem any_isOption_dividedWords (tokens : List String) :
    (dividedWords tokens).any Word.isOption = false := by
  rw [dividedWords, List.any_cons, List.any_map]
  simp [Word.isOption]

/-! ## Steps -/

/-- A place for a command takes all words if the first is plain. -/
theorem Parameter.take?_command {p : Parameter} (harity : p.arity = .command) {w : Word}
    (hplain : w.kind = .plain) (ws : List Word) : p.take? (w :: ws) = some (w :: ws, []) := by
  unfold take?
  simp [harity, Word.isDivider, Word.isPlain, hplain]

namespace Progress

variable {g : Grammar} {s next : Progress}

/-- A single place that takes all words is filled with them, and no place and no word is left. -/
theorem fill_of_takes_all {p : Parameter} (hplaces : s.places = [p])
    (htake : p.take? s.words = some (s.words, [])) (hhelp : p.asksHelp = false)
    (hchoice : badChoice? p (p.wordsOf s.words) = none) :
    s.fill = .ok ({ s with places := [], words := [] }.enter p (p.wordsOf s.words)) := by
  unfold fill
  simp [hplaces, fillPlaces, htake, give, hhelp, hchoice]

/-- Without places and words there is nothing to fill. -/
theorem fill_of_nil (hplaces : s.places = []) (hwords : s.words = []) : s.fill = .ok s := by
  obtain ⟨words, places, values⟩ := s
  subst hplaces hwords
  rfl

/-- A step at a plain word fills places, if they take any. -/
theorem step_of_fill {w : Word} {ws : List Word} (hwords : s.words = w :: ws)
    (hplain : w.kind = .plain) (hfill : s.fill = .ok next)
    (hless : next.words.length < s.words.length) : s.step g = .ok next := by
  unfold step
  simp only [hwords, hplain, hfill]
  simp [bind, Except.bind, pure, Except.pure, ← hwords, hless]

/-- A step at an option gives it what it takes, if nothing is left over. -/
theorem step_of_option {w : Word} {rest : List Word} {o : Occurrence} {taken : Taken}
    (hwords : s.words = w :: rest) (hkind : w.kind = .option o)
    (htaken : g.takeOption o rest.head? = .ok taken) (hnone : taken.leftOver = []) :
    s.step g =
      ({ s with words := if taken.takesNext then rest.drop 1 else rest } : Progress).give
        taken.given := by
  unfold step
  simp only [hwords, hkind, htaken, leave]
  simp [bind, Except.bind, mapError_ok, hnone]

/-- While words name options, a run goes on from the state that its first step leads to. -/
theorem run_of_step (hoption : s.words.any Word.isOption = true) (hstep : s.step g = .ok next)
    (steps : Nat) : run g (steps + 1) s = run g steps next := by
  rw [run, if_pos hoption, hstep]
  rfl

/-- A run ends where no word names an option. -/
theorem run_of_no_option (hoption : s.words.any Word.isOption = false) (steps : Nat) :
    run g steps s = .ok s := by
  cases steps with
  | zero => rfl
  | succ steps => rw [run, if_neg (by simp [hoption])]

end Progress

/-- What a command line gives whose run ends in a state from which the places take all words that
are left. -/
theorem Grammar.read_of_run {g : Grammar} {argv : List String} {ws : List Word} {s s' : Progress}
    (hwords : g.words argv = .ok ws)
    (hrun : Progress.run g ws.length { words := ws, places := g.allPlaces } = .ok s)
    (hfill : s.fill = .ok s') (hempty : s'.words = []) (hmissing : g.missing s'.values = []) :
    g.read argv = .ok s'.values := by
  have hleave : s'.leave (s'.words.map Word.text) = s' := by
    rw [hempty, List.map_nil, Progress.leave, List.append_nil]
  unfold read
  rw [hwords]
  simp only [mapError_ok, bind, Except.bind, hrun, hfill, hleave, hmissing]
  rfl

/-! ## The program -/

/-- The grammar of the program gives the name of a command and all words behind it to the place for
commands, also those that look like options. -/
theorem read_rootGrammar (program : String) {name : String} {argv : List String} {ws : List Word}
    (hname : name ∈ commandGroup.commands.map Prod.fst)
    (hwords : (rootGrammar program).words (name :: argv) =
      .ok ({ text := name, kind := .plain } :: ws))
    (hoption : ws.any Word.isOption = true) :
    (rootGrammar program).read (name :: argv) = .ok { given := [("command", name :: argv)] } := by
  have htexts : ({ text := name, kind := .plain } :: ws).map Word.text = name :: argv :=
    Grammar.map_text_words hwords
  let s : Progress :=
    { words := { text := name, kind := .plain } :: ws, places := [commandGroup.place] }
  let s' : Progress :=
    { words := [], places := [], values := { given := [("command", name :: argv)] } }
  have hwordsOf : commandGroup.place.wordsOf s.words = name :: argv := htexts
  have hchoice : Progress.badChoice? commandGroup.place (name :: argv) = none := by
    have hmem : ¬ commandGroup.place.choices = [] → name ∈ commandGroup.place.choices :=
      fun _ => hname
    simpa [Progress.badChoice?] using hmem
  -- The place is filled at the first word already, before any of the unknown options is looked at.
  have hfill : s.fill = .ok s' := by
    rw [Progress.fill_of_takes_all rfl (Parameter.take?_command rfl rfl ws) rfl
      (by rw [hwordsOf, hchoice]), hwordsOf]
    rfl
  have hstep : s.step (rootGrammar program) = .ok s' :=
    Progress.step_of_fill rfl rfl hfill (Nat.succ_pos _)
  have hrun : Progress.run (rootGrammar program) (ws.length + 1) s = .ok s' := by
    rw [Progress.run_of_step (by simpa [s, Word.isOption] using hoption) hstep]
    exact Progress.run_of_no_option rfl _
  exact Grammar.read_of_run hwords hrun (Progress.fill_of_nil rfl rfl) rfl rfl

/-- What the words of a command for a scan are to the grammar of the program: it knows none of the
options. -/
theorem words_rootGrammar_scanLine (program : String) {config : String}
    (hconfig : config.toList.head? ≠ some '-') (strict : Bool) (tokens : List String) :
    (rootGrammar program).words (scanLine config strict tokens) =
      .ok ({ text := "parse", kind := .plain } :: { text := "-c", kind := .unknown } ::
        { text := config, kind := .plain } ::
        ((if strict then [{ text := "--strict", kind := .unknown }] else []) ++
          dividedWords tokens)) := by
  apply Grammar.words_cons_of_head? (by decide)
  apply Grammar.words_cons (by decide) rfl
  apply Grammar.words_cons_of_head? hconfig
  cases strict with
  | false => exact Grammar.words_divider _ tokens
  | true => exact Grammar.words_cons (by decide) rfl (Grammar.words_divider _ tokens)

/-! ## The command for a scan -/

/-- The word that names the option for the settings file. -/
def configWord : Word where
  text := "-c"
  kind := .option { option := configOption, spelling := "-c".toList }

/-- The word that names the option for a strict scan. -/
def strictWord : Word where
  text := "--strict"
  kind := .option { option := strictOption, spelling := "--strict".toList }

/-- What the words of a command for a scan are to the grammar of that command. -/
theorem words_parseGrammar_scanWords (program : String) {config : String}
    (hconfig : config.toList.head? ≠ some '-') (strict : Bool) (tokens : List String) :
    (parseGrammar program).words (scanWords config strict tokens) =
      .ok (configWord :: { text := config, kind := .plain } ::
        ((if strict then [strictWord] else []) ++ dividedWords tokens)) := by
  apply Grammar.words_cons (by decide) rfl
  apply Grammar.words_cons_of_head? hconfig
  cases strict with
  | false => exact Grammar.words_divider _ tokens
  | true => exact Grammar.words_cons (by decide) rfl (Grammar.words_divider _ tokens)

/-- The option for the settings file takes the next word. -/
theorem Progress.step_configWord (g : Grammar) (config : String) (rest : List Word)
    (places : List Parameter) (values : Values) :
    Progress.step g
        { words := configWord :: { text := config, kind := .plain } :: rest, places, values } =
      .ok (Progress.enter { words := rest, places, values } configOption [config]) := by
  have htaken : g.takeOption { option := configOption, spelling := "-c".toList }
      (some { text := config, kind := .plain }) =
        .ok { given := [(configOption, [config])], takesNext := true } := rfl
  rw [step_of_option rfl rfl htaken rfl]
  rfl

/-- The option for a strict scan takes no word. -/
theorem Progress.step_strictWord (g : Grammar) (rest : List Word) (places : List Parameter)
    (values : Values) :
    Progress.step g { words := strictWord :: rest, places, values } =
      .ok (Progress.enter { words := rest, places, values } strictOption []) := by
  have htaken : g.takeOption { option := strictOption, spelling := "--strict".toList } rest.head? =
      .ok { given := [(strictOption, [])] } := rfl
  rw [step_of_option rfl rfl htaken rfl]
  rfl

/-- The place for tokens takes the divider and the tokens as they are. -/
theorem Progress.fill_tokensPlace (tokens : List String) (values : Values) :
    Progress.fill { words := dividedWords tokens, places := [tokensPlace], values } =
      .ok (Progress.enter { words := [], places := [], values } tokensPlace ("--" :: tokens)) := by
  have hwordsOf : tokensPlace.wordsOf (dividedWords tokens) = "--" :: tokens :=
    Grammar.map_text_words (Grammar.words_divider (parseGrammar "") tokens)
  rw [fill_of_takes_all rfl rfl rfl rfl, hwordsOf]

/-- The grammar of the command takes the options before the divider, and gives the divider and all
tokens to the place for tokens. -/
theorem read_parseGrammar (program : String) {config : String}
    (hconfig : config.toList.head? ≠ some '-') (strict : Bool) (tokens : List String) :
    (parseGrammar program).read (scanWords config strict tokens) =
      .ok { given := ("config", [config]) ::
        ((if strict then [("strict", [])] else []) ++ [("tokens", "--" :: tokens)]) } := by
  have hwords := words_parseGrammar_scanWords program hconfig strict tokens
  have hend := any_isOption_dividedWords tokens
  have hfill := Progress.fill_tokensPlace tokens
  cases strict with
  | false =>
    apply Grammar.read_of_run hwords _ (hfill { given := [("config", [config])] }) rfl rfl
    calc Progress.run _ (_ + 1) _
        = Progress.run _ _ _ :=
          Progress.run_of_step rfl (Progress.step_configWord _ config (dividedWords tokens) _ _) _
      _ = _ := Progress.run_of_no_option hend _
  | true =>
    apply Grammar.read_of_run hwords _ (hfill { given := [("config", [config]), ("strict", [])] })
      rfl rfl
    calc Progress.run _ (_ + 1 + 1) _
        = Progress.run _ (_ + 1) _ :=
          Progress.run_of_step rfl
            (Progress.step_configWord _ config (strictWord :: dividedWords tokens) _ _) _
      _ = Progress.run _ _ _ :=
          Progress.run_of_step rfl (Progress.step_strictWord _ (dividedWords tokens) _ _) _
      _ = _ := Progress.run_of_no_option hend _

/-- The request of a command line without options before the command is what the command's own
grammar reads. -/
theorem Request.read_of_command {program name : String} {words : List String}
    {command : Option Command}
    (hroot : (rootGrammar program).read (name :: words) =
      .ok { given := [("command", name :: words)] })
    (hcommand : readCommand program name words = .ok (command, [])) :
    Request.read program (name :: words) = .ok { command } := by
  have hfind : Values.find? { given := [("command", name :: words)] } "command" =
      some (name :: words) := rfl
  simp only [read, Grammar.readOr, hroot, mapError_ok, bind, Except.bind, hfind, hcommand]
  rfl

/-- A command line that asks for a scan is read as the request for it, with the divider in front of
the tokens. -/
theorem read_scanLine (program : String) {config : String}
    (hconfig : config.toList.head? ≠ some '-') (strict : Bool) (tokens : List String) :
    Request.read program (scanLine config strict tokens) =
      .ok { command := some (.parse config strict ("--" :: tokens)) } := by
  have hroot := read_rootGrammar program (by decide)
    (words_rootGrammar_scanLine program hconfig strict tokens) rfl
  have hcommand : readCommand program "parse" (scanWords config strict tokens) =
      .ok (some (.parse config strict ("--" :: tokens)), []) := by
    simp only [readCommand, Grammar.readOr, read_parseGrammar program hconfig]
    cases strict <;> rfl
  exact Request.read_of_command hroot hcommand

end ArgScan.CommandLine
