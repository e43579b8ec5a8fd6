import ArgScan.CommandLine.Word

/-!
# Values given on command lines

The words are taken from left to right. An option takes its value from its own word or the one after
it. Words before an option fill as many places as they can at that time, also with nothing; words
that fill none are left over, as are options that the grammar does not know. Several switches may
share one word behind one hyphen.
-/

namespace ArgScan.CommandLine

/-- The values that a command line gives. -/
structure Values where
  /-- The words given for each name, in the order in which they were. -/
  given : List (String × List String) := []
  /-- The words left over. -/
  leftOver : List String := []
deriving DecidableEq

namespace Values

/-- Whether anything was given for a name. -/
def has (v : Values) (name : String) : Bool := v.given.any fun entry => entry.1 = name

/-- The words given for a name, the last time. -/
def find? (v : Values) (name : String) : Option (List String) :=
  (v.given.reverse.find? fun entry => entry.1 = name).map Prod.snd

/-- The first word given for a name, the last time. -/
def word? (v : Values) (name : String) : Option String := (v.find? name).bind List.head?

end Values

/-! ## Options -/

/-- What an option takes: the words given for it and for switches in the same word, words left over,
and whether it takes the word after it. -/
structure Taken where
  /-- The words given. -/
  given : List (Parameter × List String) := []
  /-- The words left over. -/
  leftOver : List String := []
  /-- The next word is taken. -/
  takesNext : Bool := false

/-- Takes an option that has no value in its own word. -/
def takeAlone (option : Parameter) (next? : Option Word) : Except Fault Taken :=
  if option.arity = .switch then .ok { given := [(option, [])] }
  else
    match next?.filter Word.isPlain with
    | some next => .ok { given := [(option, [next.text])], takesNext := true }
    | none => .error (.noValue option)

/-- What a further switch in a word takes, after the switch before it. -/
def Taken.after (option : Parameter) (taken : Taken) : Taken :=
  { taken with given := (option, []) :: taken.given }

/-- The next switch in a word, behind an option that is a switch itself. What is no switch is left
over. -/
def Grammar.further (g : Grammar) (option : Parameter) (byEquals : Bool) (c : Char)
    (rest : List Char) : Except Fault (Taken ⊕ Parameter) :=
  if option.arity ≠ .switch then .ok (.inl { given := [(option, [String.ofList (c :: rest)])] })
  else if byEquals || c = '-' then .error (.unusedValue option (String.ofList (c :: rest)))
  else
    match g.option? ['-', c] with
    | some further => .ok (.inr further)
    | none =>
      .ok (.inl { given := [(option, [])], leftOver := [String.ofList ('-' :: c :: rest)] })

/-- Takes a short option with more characters behind it in its word: a value, or further switches.
-/
def Grammar.takeShort (g : Grammar) (next? : Option Word) (option : Parameter) (byEquals : Bool) :
    List Char → Except Fault Taken
  | [] =>
    if option.arity = .switch then .error (.unusedValue option "")
    else .ok { given := [(option, [""])] }
  | [c] => do
    match ← g.further option byEquals c [] with
    | .inl taken => return taken
    | .inr further => return (← takeAlone further next?).after option
  | c :: '=' :: value => do
    match ← g.further option byEquals c ('=' :: value) with
    | .inl taken => return taken
    | .inr further => return (← g.takeShort next? further true value).after option
  | c :: d :: rest => do
    match ← g.further option byEquals c (d :: rest) with
    | .inl taken => return taken
    | .inr further => return (← g.takeShort next? further false (d :: rest)).after option

/-- Takes an option that a word names. -/
def Grammar.takeOption (g : Grammar) (o : Occurrence) (next? : Option Word) : Except Fault Taken :=
  match o.attached with
  | none => takeAlone o.option next?
  | some a =>
    if o.spelling.drop 1 |>.head?.any (· ≠ '-') then g.takeShort next? o.option a.byEquals a.text
    else if o.option.arity = .switch then .error (.unusedValue o.option (String.ofList a.text))
    else .ok { given := [(o.option, [String.ofList a.text])] }

/-! ## Places -/

/-- The words that a place takes from the start of some, and the rest; `none` if they do not suit
it. -/
def Parameter.take? (p : Parameter) (words : List Word) : Option (List Word × List Word) :=
  let start := words.takeWhile Word.isDivider
  let rest := words.dropWhile Word.isDivider
  match p.arity with
  | .switch => none
  | .rest => some (words, [])
  | .command => if rest.head?.any Word.isPlain then some (words, []) else none
  | .one | .optional =>
    match rest with
    | w :: rest =>
      if w.isPlain then
        some (start ++ w :: rest.takeWhile Word.isDivider, rest.dropWhile Word.isDivider)
      else if p.arity = .optional then some (start, w :: rest)
      else none
    | [] => if p.arity = .optional then some (start, []) else none

/-- The words given for a place by those that it takes. A divider does not count, unless the place
takes all words. -/
def Parameter.wordsOf (p : Parameter) (taken : List Word) : List String :=
  let texts := taken.map Word.text
  if p.arity = .one ∨ p.arity = .optional then texts.erase "--" else texts

/-- What filling places gives. -/
structure Filled where
  /-- The words given for each place that is filled. -/
  given : List (Parameter × List String) := []
  /-- The places left. -/
  places : List Parameter
  /-- The words left. -/
  words : List Word

/-- Fills as many places as possible from the start of some words. -/
def fillPlaces : List Parameter → List Word → Filled
  | [], words => { places := [], words }
  | p :: places, words =>
    match p.take? words with
    | none => { places := p :: places, words }
    | some (taken, rest) =>
      let filled := fillPlaces places rest
      { filled with given := (p, p.wordsOf taken) :: filled.given }

/-! ## Command lines -/

/-- A command line being read. -/
structure Progress where
  /-- The words left. -/
  words : List Word
  /-- The places left. -/
  places : List Parameter
  /-- The values so far. -/
  values : Values := {}

namespace Progress

/-- Enters the words given for one parameter. -/
def enter (s : Progress) (p : Parameter) (words : List String) : Progress :=
  { s with values := { s.values with given := s.values.given ++ [(p.name, words)] } }

/-- The first of some words, if a parameter does not take it. -/
def badChoice? (p : Parameter) (words : List String) : Option String :=
  words.head?.filter fun word => p.choices ≠ [] && !p.choices.contains word

/-- Enters what was given for parameters, up to one that asks for help or a word that is no choice.
-/
def give (s : Progress) : List (Parameter × List String) → Except Stop Progress
  | [] => .ok s
  | (p, words) :: rest =>
    if p.asksHelp then .error .help
    else
      match badChoice? p words with
      | some word => .error (.fault (.badChoice p word))
      | none => (s.enter p words).give rest

/-- Leaves words over. -/
def leave (s : Progress) (words : List String) : Progress :=
  { s with values := { s.values with leftOver := s.values.leftOver ++ words } }

/-- Fills places from the words left. -/
def fill (s : Progress) : Except Stop Progress :=
  let filled := fillPlaces s.places s.words
  { s with places := filled.places, words := filled.words }.give filled.given

/-- Takes the next option, or the words before it. -/
def step (g : Grammar) (s : Progress) : Except Stop Progress :=
  match s.words with
  | [] => .ok s
  | w :: rest =>
    match w.kind with
    | .unknown => .ok ({ s with words := rest }.leave [w.text])
    | .option o => do
      let taken ← (g.takeOption o rest.head?).mapError .fault
      let s := { s with words := if taken.takesNext then rest.drop 1 else rest }
      return (← s.leave taken.leftOver |>.give taken.given)
    | _ => do
      let filled ← s.fill
      if filled.words.length < s.words.length then return filled
      else
        let before := filled.words.takeWhile fun w => !w.isOption
        return { filled with words := filled.words.drop before.length }.leave (before.map Word.text)

/-- Takes words until no option is left, but no more often than the given number. -/
def run (g : Grammar) : Nat → Progress → Except Stop Progress
  | 0, s => .ok s
  | steps + 1, s =>
    if s.words.any Word.isOption then do run g steps (← s.step g) else .ok s

end Progress

/-- The parameters that must be given and are not. -/
def Grammar.missing (g : Grammar) (v : Values) : List Parameter :=
  (g.options ++ g.allPlaces).filter fun p => p.required && !v.has p.name

/-- Reads a command line. -/
def Grammar.read (g : Grammar) (argv : List String) : Except Stop Values := do
  let words ← (g.words argv).mapError .fault
  let s ← Progress.run g words.length { words, places := g.allPlaces }
  let s ← s.fill
  let values := (s.leave (s.words.map Word.text)).values
  match g.missing values with
  | [] => return values
  | missing => .error (.fault (.missing missing))

end ArgScan.CommandLine
