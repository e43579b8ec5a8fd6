import ArgScan.Probe

/-!
# Scanning tokens for a batch of definitions

A scan walks once over a list of tokens and settles a whole batch of definitions. At each position
the definitions are tried in their order. The first that matches takes its tokens out of the list
and the scan stays where it is, since the next token has moved there; if none matches, the scan
moves on. Every occurrence of a definition is taken, and the last one counts.

The scan is a machine on the live list. A `Scan` is its state, `Scan.step` is one pass over the
definitions at the current position, and `Scan.run` repeats passes. A pass either moves on or takes
a token, so as many passes as there are tokens at the start suffice.
-/

namespace ArgScan

/-- A definition and what the scan has found for it so far. -/
structure Tally where
  /-- The definition. -/
  definition : Definition
  /-- The last occurrence, or absence. -/
  finding : Finding := .absent
  /-- The number of occurrences. -/
  occurrences : Nat := 0
deriving DecidableEq

/-- Enters a finding. Absence never replaces what was found before. -/
def Tally.record (t : Tally) (finding : Finding) : Tally :=
  if finding.present then { t with finding, occurrences := t.occurrences + 1 } else t

/-- A note that a scan makes for the log. -/
inductive Notice where
  /-- The first occurrence of a definition. -/
  | matched (name : String) (position : Nat) (finding : Finding)
  /-- A later occurrence, with the token that it began with. -/
  | repeated (name : String) (times : Nat) (token : String)
  /-- An option whose value should have been the next token is the last one. -/
  | dangling (name : String)
deriving DecidableEq

/-- The wording of a note. -/
def Notice.message : Notice → String
  | .matched name position finding =>
    "Matched '" ++ name ++ "' at " ++ Text.decimal position ++ ": " ++ finding.literal
  | .repeated name times token =>
    "'" ++ name ++ "' given " ++ Text.decimal times ++ " times, keeping the value from " ++
      Text.quoted token
  | .dangling name => "Option '" ++ name ++ "' is the last token and has no value"

/-- The state of a scan. -/
structure Scan where
  /-- The definitions in their order, with what was found for each. -/
  tallies : List Tally
  /-- The position of the next token to try. The tokens before it are kept. -/
  position : Nat := 0
  /-- The tokens not taken so far. -/
  tokens : List String
  /-- The notes so far, in order. -/
  notices : List Notice := []
deriving DecidableEq

/-- What one position gave: a finding for one of the tallies, which are all there with it entered.
-/
structure Hit where
  /-- The tallies with the finding entered. -/
  tallies : List Tally
  /-- The tokens left. -/
  tokens : List String
  /-- The notes about the finding. -/
  notices : List Notice
deriving DecidableEq

/-- The notes about an occurrence at a position, for the tally that has it entered already. -/
def Tally.notices (t : Tally) (position : Nat) (token : String) (probe : Probe) : List Notice :=
  (if probe.dangling then [.dangling t.definition.name] else []) ++
    [if 1 < t.occurrences then .repeated t.definition.name t.occurrences token
     else .matched t.definition.name position probe.finding]

/-- Tries the tallies' definitions in order at a position, up to the first that matches. -/
def firstHit (position : Nat) (tokens : List String) :
    List Tally → Except PositionFault (Option Hit)
  | [] => .ok none
  | t :: rest => do
    let probe ← t.definition.takeAt position tokens
    if probe.finding.present then
      let entered := t.record probe.finding
      let notices := entered.notices position (tokens.getD position "") probe
      return some { tallies := entered :: rest, tokens := probe.tokens, notices }
    else
      let hit? ← firstHit position tokens rest
      return hit?.map fun hit => { hit with tallies := t :: hit.tallies }

namespace Scan

/-- The state before the first pass. -/
def start (definitions : List Definition) (tokens : List String) : Scan where
  tallies := definitions.map fun d => { definition := d }
  tokens := tokens

/-- One pass at the current position; `none` if no token is left to try. -/
def step (s : Scan) : Except PositionFault (Option Scan) :=
  if s.position < s.tokens.length then do
    match ← firstHit s.position s.tokens s.tallies with
    | some hit =>
      -- The position stays: the next token has moved there.
      return some
        { s with tallies := hit.tallies, tokens := hit.tokens, notices := s.notices ++ hit.notices }
    | none => return some { s with position := s.position + 1 }
  else .ok none

/-- Repeats passes until no token is left to try, but no more often than the given number. -/
def run : Nat → Scan → Except PositionFault Scan
  | 0, s => .ok s
  | passes + 1, s => do
    match ← s.step with
    | some next => run passes next
    | none => return s

/-- What was found for each definition, in their order. -/
def findings (s : Scan) : List Finding := s.tallies.map Tally.finding

end Scan

/-- Scans the tokens for the definitions. -/
def scan (definitions : List Definition) (tokens : List String) : Except PositionFault Scan :=
  Scan.run tokens.length (.start definitions tokens)

end ArgScan
