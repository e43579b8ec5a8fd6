import ArgScan.Definition

/-!
# Trying a definition at one position

`Definition.takeAt` tries a definition at one position of a list of tokens. On a match it removes
the tokens that it takes, one or two, and otherwise it leaves the list alone. Positions are signed:
a negative one counts from the end of the list, and it is resolved anew each time it is used. So
when a value in the next token is taken at a negative position, the list is one shorter by then and
the position means the token before; at the first position that token does not exist, and the fault
comes when the option's own token is already gone.
-/

namespace ArgScan

/-- The place in a list of the given length that a signed position means, if there is one. A
negative position counts from the end. -/
def place? (length : Nat) (position : Int) : Option Nat :=
  let i := if position < 0 then position + length else position
  if 0 ≤ i ∧ i < length then some i.toNat else none

/-- A position outside the list. The tokens are those that are left by then. -/
structure PositionFault where
  /-- The tokens at the time of the fault. -/
  tokens : List String
deriving DecidableEq

/-- What came of trying a definition at a position. -/
structure Probe where
  /-- What was found. -/
  finding : Finding
  /-- The tokens afterwards. -/
  tokens : List String
  /-- The value should have been the next token, and there was none. -/
  dangling : Bool := false
deriving DecidableEq

/-- Tries the definition at a position of the tokens. -/
def Definition.takeAt (d : Definition) (position : Int) (tokens : List String) :
    Except PositionFault Probe :=
  match place? tokens.length position with
  | none => .error ⟨tokens⟩
  | some i =>
    let others := tokens.eraseIdx i
    match d.claim? (tokens.getD i "") with
    | none => .ok { finding := .absent, tokens }
    | some .flag => .ok { finding := .flag, tokens := others }
    | some (.inline value) => .ok { finding := .found (some value), tokens := others }
    | some .next =>
      -- With the option's token gone, the value has moved to its position.
      if position < others.length then
        match place? others.length position with
        | none => .error ⟨others⟩
        | some j =>
          .ok { finding := .found (some (others.getD j "")), tokens := others.eraseIdx j }
      else .ok { finding := .found none, tokens := others, dangling := true }

end ArgScan
