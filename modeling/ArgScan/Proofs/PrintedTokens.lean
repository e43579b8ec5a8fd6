import ArgScan.Proofs.Lookup
import ArgScan.Proofs.Failures
import ArgScan.Proofs.Spelling

/-!
# Tokens that are printed as they are

A command line that asks for a rendering prints the tokens one after the other, and none of them
counts as markup. They still go through the command line and the console, and so they come out as
they are exactly if the value of an option is not two hyphens, which the command line drops, and
each token fits on a line. A run prints what the console makes of each token
(`run_renderLine_of_render`), and that is the tokens on lines of their own only if no token is set
in several lines or changed (`run_renderLine_eq_iff`).
-/

namespace ArgScan

namespace Definition

variable {d : Definition}

/-- The value that is taken is as good as the one given for a flag, and for an option if it is not
two hyphens. -/
theorem render_takenValue {value : String} (h : d.isFlag = true ∨ value ≠ "--") :
    d.render (CommandLine.takenValue (some value)) = d.render (some value) := by
  rcases h with h | h
  · simp only [render, h, if_true]
  · rw [CommandLine.takenValue, if_neg h]

/-- An option cannot be rendered with a value of two hyphens, which is not taken. -/
theorem render_takenValue_of_hyphens {value : String} (h : ¬ (d.isFlag = true ∨ value ≠ "--")) :
    d.render (CommandLine.takenValue (some value)) = .error ⟨d.name⟩ := by
  rw [not_or, ne_eq, not_not] at h
  obtain ⟨hoption, rfl⟩ := h
  unfold render
  rw [if_neg hoption]
  rfl

/-- A token of a rendering begins with a hyphen, or it is the value. -/
theorem head?_or_eq_of_mem_render {value token : String} {r : Rendering}
    (hr : d.render (some value) = .ok r) (htoken : token ∈ r.tokens) :
    token.toList.head? = some '-' ∨ token = value := by
  have hhead (s : String) : (d.head ++ s).toList.head? = some '-' := by
    obtain ⟨n, hn⟩ := Nat.exists_eq_succ_of_ne_zero (d.facets.hyphenCountFor_ne_zero d.name)
    rw [toList_head_append, hn, List.replicate_succ, List.cons_append, List.head?_cons]
  have hbare : d.head.toList.head? = some '-' := by
    simpa only [String.append_empty] using hhead ""
  unfold render at hr
  simp only at hr
  split_ifs at hr <;> obtain rfl := Except.ok.inj hr
  · obtain rfl := List.mem_singleton.1 htoken
    exact .inl hbare
  · obtain rfl := List.mem_singleton.1 htoken
    rw [String.append_assoc]
    exact .inl (hhead _)
  · obtain rfl := List.mem_singleton.1 htoken
    exact .inl (hhead _)
  · rcases List.mem_cons.1 htoken with rfl | htoken
    · exact .inl hbare
    · exact .inr (List.mem_singleton.1 htoken)

end Definition

namespace Program

variable {folder : Files.Folder} {config query : String} {loaded : Settings.Loaded} {d : Definition}

/-! ## Printing -/

/-- In the plain dialect, texts that are printed without markup are set one after the other. -/
theorem exists_playAll_text (texts : List String) (session : Log.Session) :
    ∃ session' : Log.Session, playAll .plain session (texts.map Act.text) = .ok session' ∧
      session'.streams = { session.streams with
        output := session.streams.output ++ Console.ofLines
          ((texts.map String.toList).flatMap
            (Console.setLines { width := Console.consoleWidth })) } := by
  induction texts generalizing session with
  | nil =>
    refine ⟨session, rfl, ?_⟩
    exact congrArg (fun output => { session.streams with output })
      (String.append_empty (s := session.streams.output)).symm
  | cons text rest ih =>
    obtain ⟨session', hplay, hstreams⟩ := ih (session.write (Console.printed text.toList))
    refine ⟨session', ?_, hstreams.trans ?_⟩
    · rw [List.map_cons, playAll, play, Console.Dialect.replace_plain]
      exact hplay
    rw [List.map_cons, List.flatMap_cons, Console.ofLines_append, ← String.append_assoc]
    rfl

section Run

variable (hconfig : config.toList.head? ≠ some '-') (hquery : query.toList.head? ≠ some '-')
  (hload : Settings.load folder config = .ok loaded)
  (hfind : Definition.find? loaded.definitions query = some d)

include hload hfind

/-- A rendering that succeeds reports its tokens, as texts without markup. -/
theorem ofCommand_of_render {value : Option String} {r : Rendering} (hr : d.render value = .ok r) :
    Report.ofCommand folder (.format config query value) =
      { acts := [loaded.message].map Act.debug ++ r.tokens.map Act.text, outcome := .ok 0 } := by
  simp only [Report.ofCommand, Report.withDefinitions, hload, Report.format, hfind, hr]
  rfl

/-- A rendering without the value that an option needs reports the failure. -/
theorem ofCommand_of_missing {value : Option String} {error : MissingValue}
    (hr : d.render value = .error error) :
    Report.ofCommand folder (.format config query value) =
      { acts := [loaded.message].map Act.debug, outcome := .error (.missingValue error) } := by
  simp only [Report.ofCommand, Report.withDefinitions, hload, Report.format, hfind, hr]
  rfl

include hconfig hquery

/-- A run of a rendering that succeeds prints what the console makes of its tokens. -/
theorem run_renderLine_of_render {value : Option String} {r : Rendering}
    (hr : d.render (CommandLine.takenValue value) = .ok r) :
    run folder none (CommandLine.renderLine config query value) =
      .ok {
        status := 0
        output := Console.ofLines ((r.tokens.map String.toList).flatMap
          (Console.setLines { width := Console.consoleWidth }))
        errors := "" } := by
  obtain ⟨session, hquiet, hstreams, hrun⟩ := runRequest_of_mode folder
    (.format config query (CommandLine.takenValue value)) Log.ofName?_modeName_none
  obtain ⟨session', hplay, hstreams'⟩ := exists_playAll_text r.tokens session
  have hacts := playAll_debug_append .plain hquiet [loaded.message] (r.tokens.map .text)
  simp only [run, CommandLine.read_renderLine name hconfig hquery, hrun, runCommand,
    ofCommand_of_render hload hfind hr, Report.told, Host.dialect_ofFolder, hacts, hplay]
  rw [hstreams] at hstreams'
  simp only [CommandLine.mapError_ok, bind, Except.bind, respond, hstreams', String.empty_append]
  rfl

/-- A run of a rendering without the value that an option needs ends with exit status one. -/
theorem exists_run_renderLine_of_missing {value : Option String} {error : MissingValue}
    (hr : d.render (CommandLine.takenValue value) = .error error) :
    ∃ output, errorLabel <+: output.toList ∧
      run folder none (CommandLine.renderLine config query value) =
        .ok { status := 1, output, errors := "" } := by
  obtain ⟨session, hquiet, hstreams, hrun⟩ := runRequest_of_mode folder
    (.format config query (CommandLine.takenValue value)) Log.ofName?_modeName_none
  simp only [run, CommandLine.read_renderLine name hconfig hquery, hrun]
  exact exists_runCommand_of_isTold (ofCommand_of_missing hload hfind hr) rfl hquiet hstreams

/-- The tokens of a rendering are printed as they are, each on a line of its own, exactly if the
value of an option is not two hyphens and each token is set as one line, which is the token itself.
-/
theorem run_renderLine_eq_iff {value : String} {r : Rendering}
    (hr : d.render (some value) = .ok r) (hfeed : ∀ token ∈ r.tokens, '\n' ∉ token.toList) :
    run folder none (CommandLine.renderLine config query (some value)) =
        .ok { status := 0, output := String.join (r.tokens.map (· ++ "\n")), errors := "" } ↔
      (d.isFlag = true ∨ value ≠ "--") ∧ ∀ token ∈ r.tokens,
        Console.setLines { width := Console.consoleWidth } token.toList = [token.toList] := by
  by_cases htaken : d.isFlag = true ∨ value ≠ "--"
  · have hrun := run_renderLine_of_render hconfig hquery hload hfind
      ((Definition.render_takenValue htaken).trans hr)
    have hlines := Console.ofLines_flatMap_setLines_eq_iff Console.consoleWidth
      (List.forall_mem_map.2 hfeed)
    rw [List.forall_mem_map] at hlines
    rw [hrun, Console.join_map_append_eq_ofLines, Except.ok.injEq, Response.mk.injEq, hlines]
    simp only [htaken, true_and, and_true]
  · obtain ⟨output, -, hrun⟩ := exists_run_renderLine_of_missing hconfig hquery hload hfind
      (Definition.render_takenValue_of_hyphens htaken)
    rw [hrun, Except.ok.injEq, Response.mk.injEq]
    exact ⟨fun h => absurd h.1 (by decide), fun h => absurd h.1 htaken⟩

end Run

/-! ## Tokens as they are -/

/-- With no log mode in the environment, a command line that asks for a rendering with a value ends
with exit status zero and prints tokens as they are, each on a line of its own. -/
def PrintsTokens (folder : Files.Folder) (config query value : String) (tokens : List String) :
    Prop :=
  run folder none (CommandLine.renderLine config query (some value)) =
    .ok { status := 0, output := String.join (tokens.map (· ++ "\n")), errors := "" }

/-- The tokens of a rendering that have no line feed are printed as they are if the value of an
option is not two hyphens and each token fits on a line of the console. They are not otherwise,
unless the value begins with a joiner, which counts differently by itself and before others. -/
theorem printsTokens_render (hconfig : config.toList.head? ≠ some '-')
    (hquery : query.toList.head? ≠ some '-') (hload : Settings.load folder config = .ok loaded)
    (hfind : (loaded.definitions.find? fun d => d.isNamed query) = some d) (value : String) :
    ∃ r, d.render (some value) = .ok r ∧
      ((∀ token ∈ r.tokens, '\n' ∉ token.toList) →
        ((d.isFlag = true ∨ value ≠ "--") ∧
            (∀ token ∈ r.tokens, Console.FitsLine Console.consoleWidth token.toList) →
          PrintsTokens folder config query value r.tokens) ∧
        (value.toList.head? ≠ some Console.joiner →
          PrintsTokens folder config query value r.tokens →
          (d.isFlag = true ∨ value ≠ "--") ∧
            ∀ token ∈ r.tokens, Console.FitsLine Console.consoleWidth token.toList)) := by
  obtain ⟨r, hr⟩ := d.render_some value
  refine ⟨r, hr, fun hfeed => ?_⟩
  have hfind' : Definition.find? loaded.definitions query = some d := by
    rw [Definition.find?_of_head? _ hquery, hfind]
  have hiff := run_renderLine_eq_iff hconfig hquery hload hfind' hr hfeed
  constructor
  · rintro ⟨hvalue, hfits⟩
    refine hiff.2 ⟨hvalue, fun token htoken => ?_⟩
    exact Console.setLines_of_fitsLine (hfeed token htoken) (hfits token htoken)
  · intro hjoiner hprints
    obtain ⟨hvalue, hlines⟩ := hiff.1 hprints
    refine ⟨hvalue, fun token htoken => ?_⟩
    apply Console.fitsLine_of_setLines_eq (hfeed token htoken) _ (hlines token htoken)
    -- Any token but the value begins with a hyphen.
    rcases Definition.head?_or_eq_of_mem_render hr htoken with hhyphen | rfl
    · rw [hhyphen]
      decide
    · exact hjoiner

/-- A value with a tag and spelled like an option is printed as it is. -/
theorem printsTokens_render_spelled_like_option :
    "a.toml".toList.head? ≠ some '-' ∧ "l".toList.head? ≠ some '-' ∧ ∃ loaded,
      Settings.load optionFolder "a.toml" = .ok loaded ∧
      (loaded.definitions.find? fun d => d.isNamed "l") = some plainOption ∧
      plainOption.render (some "--[b] x") = .ok (.two "--level" "--[b] x") ∧
      run optionFolder none (CommandLine.renderLine "a.toml" "l" (some "--[b] x")) =
        .ok { status := 0, output := "--level\n--[b] x\n", errors := "" } := by
  obtain ⟨loaded, hload, hdefinitions⟩ := exists_load_optionFolder
  have hconfig : "a.toml".toList.head? ≠ some '-' := by decide
  have hquery : "l".toList.head? ≠ some '-' := by decide
  have hfind : (loaded.definitions.find? fun d => d.isNamed "l") = some plainOption := by
    rw [hdefinitions]
    rfl
  have hrender : plainOption.render (some "--[b] x") = .ok (.two "--level" "--[b] x") := rfl
  obtain ⟨r, hr, hprints⟩ := printsTokens_render hconfig hquery hload hfind "--[b] x"
  obtain rfl : .two "--level" "--[b] x" = r := Except.ok.inj (hrender.symm.trans hr)
  have hjoin : String.join (["--level", "--[b] x"].map (· ++ "\n")) = "--level\n--[b] x\n" := by
    decide
  have hrun := (hprints (by decide)).1 ⟨.inr (by decide), by decide +kernel⟩
  rw [PrintsTokens, Rendering.two, hjoin] at hrun
  exact ⟨hconfig, hquery, loaded, hload, hfind, hrender, hrun⟩

/-- A value of two hyphens is missed, a tab in a value is printed as blanks, and a value of
eighty-one characters is printed in two lines. -/
theorem exists_tokens_printed_otherwise :
    "a.toml".toList.head? ≠ some '-' ∧ "level".toList.head? ≠ some '-' ∧ ∃ loaded,
      Settings.load optionFolder "a.toml" = .ok loaded ∧
      (loaded.definitions.find? fun d => d.isNamed "level") = some plainOption ∧
      (∀ value, plainOption.render (some value) = .ok (.two "--level" value)) ∧
      (∃ output, errorLabel <+: output.toList ∧
        run optionFolder none (CommandLine.renderLine "a.toml" "level" (some "--")) =
          .ok { status := 1, output, errors := "" }) ∧
      run optionFolder none (CommandLine.renderLine "a.toml" "level" (some "a\tb")) =
        .ok { status := 0, output := "--level\na       b\n", errors := "" } ∧
      run optionFolder none (CommandLine.renderLine "a.toml" "level"
          (some (String.ofList (List.replicate 81 'a')))) =
        .ok {
          status := 0
          output := "--level\n" ++ String.ofList (List.replicate 80 'a') ++ "\na\n"
          errors := "" } := by
  obtain ⟨loaded, hload, hdefinitions⟩ := exists_load_optionFolder
  have hconfig : "a.toml".toList.head? ≠ some '-' := by decide
  have hquery : "level".toList.head? ≠ some '-' := by decide
  have hfind : (loaded.definitions.find? fun d => d.isNamed "level") = some plainOption := by
    rw [hdefinitions]
    rfl
  have hfind' : Definition.find? loaded.definitions "level" = some plainOption := by
    rw [Definition.find?_of_head? _ hquery, hfind]
  have hrender (value : String) :
      plainOption.render (some value) = .ok (.two "--level" value) := rfl
  have hmissing : ¬ (plainOption.isFlag = true ∨ "--" ≠ "--") := by decide
  have hrun {value output : String} (hvalue : value ≠ "--")
      (hout : Console.ofLines (["--level".toList, value.toList].flatMap
        (Console.setLines { width := Console.consoleWidth })) = output) :
      run optionFolder none (CommandLine.renderLine "a.toml" "level" (some value)) =
        .ok { status := 0, output, errors := "" } := by
    rw [run_renderLine_of_render hconfig hquery hload hfind'
      ((Definition.render_takenValue (.inr hvalue)).trans (hrender value))]
    simp only [Rendering.two, List.map_cons, List.map_nil, hout]
  exact ⟨hconfig, hquery, loaded, hload, hfind, hrender,
    exists_run_renderLine_of_missing hconfig hquery hload hfind'
      (Definition.render_takenValue_of_hyphens hmissing),
    hrun (by decide) (by decide +kernel), hrun (by decide) (by decide +kernel)⟩

end Program

end ArgScan
