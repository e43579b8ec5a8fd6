import ArgScan.Text.Quoted

/-!
# Findings

What a scan found for one argument: nothing, a presence, or a presence with a text.
-/

namespace ArgScan

/-- What was found for one argument. -/
structure Finding where
  /-- The argument was there. -/
  present : Bool := false
  /-- The text that came with it. A flag has none, and neither has an option at the very end of the
  tokens whose value would have been the next one. -/
  value : Option String := none
deriving DecidableEq

namespace Finding

/-- The argument was not there. -/
def absent : Finding := {}

/-- The argument was there, with the given text or without one. -/
def found (value : Option String) : Finding := ⟨true, value⟩

/-- A flag was there. -/
def flag : Finding := found none

/-- The literal of a finding. -/
def literal : Finding → String
  | ⟨false, _⟩ => "ArgMatch.ABSENT"
  | ⟨true, none⟩ => "ArgMatch.FLAG_PRESENT"
  | ⟨true, some value⟩ => "ArgMatch.found(" ++ Text.quoted value ++ ")"

end Finding

end ArgScan
