import ArgScan.Proofs.CommandLine

/-!
# Command lines that ask for a rendering

A command line that asks for a rendering has a settings file, the name of a definition, and a value
or none. It is followed here through both grammars, as the one for a scan is in `CommandLine`. With
a value there is a divider before the name, so that the value may look like an option. Each place
then drops the first word of two hyphens that it takes. The place for the name takes the divider
with it and drops that, and the place for the value takes one word alone: a value that is itself two
hyphens is dropped, and the request has none (`read_renderLine`).
-/

namespace ArgScan.CommandLine

/-- The words behind the command for a rendering of the definition with a name: the settings file
and the name, and a divider before the name if there is a value. -/
def renderWords (config name : String) : Option String → List String
  | none => ["-c", config, name]
  | some value => ["-c", config, "--", name, value]

/-- The command line that asks for a rendering. -/
def renderLine (config name : String) (value : Option String) : List String :=
  "format" :: renderWords config name value

/-- The words that the places for the name and the value take. -/
def renderPlaceWords (name : String) : Option String → List Word
  | none => [{ text := name, kind := .plain }]
  | some value => dividedWords [name, value]

/-- The value that is taken: one of two hyphens is none. -/
def takenValue : Option String → Option String
  | none => none
  | some value => if value = "--" then none else some value

variable {config name : String}

/-- What the words of a command for a rendering are to a grammar that looks at them behind the word
for the settings file. -/
theorem Grammar.words_renderPlaceWords (g : Grammar) (hconfig : config.toList.head? ≠ some '-')
    (hname : name.toList.head? ≠ some '-') (kind : WordKind) (hkind : g.kindOf "-c" = .ok kind)
    (value : Option String) :
    g.words (renderWords config name value) =
      .ok ({ text := "-c", kind } :: { text := config, kind := .plain } ::
        renderPlaceWords name value) := by
  cases value with
  | none =>
    apply words_cons (by decide) hkind
    apply words_cons_of_head? hconfig
    exact words_cons_of_head? hname rfl
  | some value =>
    apply words_cons (by decide) hkind
    apply words_cons_of_head? hconfig
    exact words_divider g [name, value]

/-- No word names an option behind the settings file. -/
theorem any_isOption_renderPlaceWords (name : String) (value : Option String) :
    (renderPlaceWords name value).any Word.isOption = false := by
  cases value with
  | none => rfl
  | some value => exact any_isOption_dividedWords [name, value]

/-- The places of the command for a rendering take the name and the value, without the first word of
two hyphens each. -/
theorem fillPlaces_renderPlaceWords (hname : name.toList.head? ≠ some '-') (value : Option String) :
    fillPlaces [namePlace, valuePlace] (renderPlaceWords name value) =
      { given := [(namePlace, [name]), (valuePlace, (takenValue value).toList)]
        places := [], words := [] } := by
  -- With a value, the place for the name takes the divider too and drops it, and the place for the
  -- value is left with the value alone. Without one, the name is not the divider.
  cases value with
  | none =>
    have hne : name ≠ "--" := by
      rintro rfl
      exact absurd hname (by decide)
    have hwordsOf : namePlace.wordsOf [{ text := name, kind := .plain }] = [name] := by
      simp [Parameter.wordsOf, namePlace, hne]
    rw [← hwordsOf]
    rfl
  | some value =>
    have hwordsOf : valuePlace.wordsOf [{ text := value, kind := .plain }] =
        (takenValue (some value)).toList := by
      by_cases hvalue : value = "--" <;>
        simp [Parameter.wordsOf, valuePlace, takenValue, hvalue]
    rw [← hwordsOf]
    rfl

/-- The places of the command for a rendering are both filled. -/
theorem Progress.fill_renderPlaces (hname : name.toList.head? ≠ some '-') (value : Option String)
    (values : Values) :
    Progress.fill
        { words := renderPlaceWords name value, places := [namePlace, valuePlace], values } =
      .ok ((Progress.enter { words := [], places := [], values } namePlace [name]).enter
        valuePlace (takenValue value).toList) := by
  simp only [fill, fillPlaces_renderPlaceWords hname]
  cases takenValue value <;> rfl

/-- The grammar of the command takes the settings file, the name and the value. -/
theorem read_formatGrammar (program : String) (hconfig : config.toList.head? ≠ some '-')
    (hname : name.toList.head? ≠ some '-') (value : Option String) :
    (formatGrammar program).read (renderWords config name value) =
      .ok { given := [("config", [config]), ("name", [name]),
        ("value", (takenValue value).toList)] } := by
  have hwords := (formatGrammar program).words_renderPlaceWords hconfig hname configWord.kind rfl
    value
  have hend := any_isOption_renderPlaceWords name value
  apply Grammar.read_of_run hwords _
    (Progress.fill_renderPlaces hname value { given := [("config", [config])] }) rfl rfl
  calc Progress.run _ (_ + 1) _
      = Progress.run _ _ _ :=
        Progress.run_of_step rfl
          (Progress.step_configWord _ config (renderPlaceWords name value) _ _) _
    _ = _ := Progress.run_of_no_option hend _

/-- A command line that asks for a rendering is read as the request for it, without a value of two
hyphens. -/
theorem read_renderLine (program : String) (hconfig : config.toList.head? ≠ some '-')
    (hname : name.toList.head? ≠ some '-') (value : Option String) :
    Request.read program (renderLine config name value) =
      .ok { command := some (.format config name (takenValue value)) } := by
  have hwords := (rootGrammar program).words_renderPlaceWords hconfig hname .unknown rfl value
  have hmem : "format" ∈ commandGroup.commands.map Prod.fst := by decide
  have hroot := read_rootGrammar program hmem (Grammar.words_cons_of_head? (by decide) hwords) rfl
  have hcommand : readCommand program "format" (renderWords config name value) =
      .ok (some (.format config name (takenValue value)), []) := by
    simp only [readCommand, Grammar.readOr, read_formatGrammar program hconfig hname]
    cases takenValue value <;> rfl
  exact Request.read_of_command hroot hcommand

end ArgScan.CommandLine
