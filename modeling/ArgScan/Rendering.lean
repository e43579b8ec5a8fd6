import ArgScan.Text.Quoted

/-!
# Rendered arguments

An argument renders to at most two tokens. They are handed out one by one, in order, and what was
handed out is gone: a rendering is the tokens that remain.
-/

namespace ArgScan

/-- The tokens that remain of a rendered argument, two at most. -/
@[ext]
structure Rendering where
  /-- The tokens, in the order in which they are handed out. -/
  tokens : List String
  /-- There are no more than two. -/
  length_le : tokens.length ≤ 2
deriving DecidableEq

/-- A rendering was asked to hold more than two tokens. -/
structure TooManyTokens where
  /-- The number of tokens. -/
  count : Nat
deriving DecidableEq

/-- The wording of the refusal. -/
def TooManyTokens.message (e : TooManyTokens) : String :=
  "FormattedArg holds at most two tokens, got " ++ Text.decimal e.count

/-- A rendering was asked for one more token when none remained. -/
structure Exhausted where
deriving DecidableEq

namespace Rendering

/-- The form of a rendering: how many tokens remain. -/
inductive Form where
  | none
  | one
  | two
deriving DecidableEq

/-- The rendering of no token. -/
def none : Rendering := ⟨[], Nat.zero_le 2⟩

/-- The rendering of one token. -/
def one (token : String) : Rendering := ⟨[token], Nat.le_succ 1⟩

/-- The rendering of two tokens. -/
def two (first second : String) : Rendering := ⟨[first, second], Nat.le_refl 2⟩

/-- The rendering of the tokens of a list, unless they are too many. -/
def ofTokens (tokens : List String) : Except TooManyTokens Rendering :=
  if h : tokens.length ≤ 2 then .ok ⟨tokens, h⟩ else .error ⟨tokens.length⟩

/-- The form of a rendering. -/
def form (r : Rendering) : Form :=
  match r.tokens with
  | [] => .none
  | [_] => .one
  | _ => .two

/-- The next token, if one remains, and what remains after it. -/
def takeNext : Rendering → Option String × Rendering
  | ⟨[], h⟩ => (Option.none, ⟨[], h⟩)
  | ⟨token :: rest, h⟩ => (some token, ⟨rest, Nat.le_of_succ_le h⟩)

/-- The next token, or a refusal if none remains, and what remains after it. -/
def next (r : Rendering) : Except Exhausted String × Rendering :=
  match r.takeNext with
  | (some token, rest) => (.ok token, rest)
  | (Option.none, rest) => (.error ⟨⟩, rest)

/-- All remaining tokens, and the rendering of none. -/
def takeAll (r : Rendering) : List String × Rendering := (r.tokens, none)

/-- The number of remaining tokens. -/
def size (r : Rendering) : Nat := r.tokens.length

/-- The remaining tokens joined without a blank. -/
def joined (r : Rendering) : String := String.join r.tokens

/-- The number of tokens that remain in a form. -/
def Form.count : Form → Nat
  | .none => 0
  | .one => 1
  | .two => 2

/-- The word for a form. -/
def Form.word : Form → String
  | .none => "none"
  | .one => "one"
  | .two => "two"

/-- The literal of a rendering, which names its form. -/
def literal (r : Rendering) : String :=
  "FormattedArg." ++ r.form.word ++ "(" ++ ", ".intercalate (r.tokens.map Text.quoted) ++ ")"

end Rendering

end ArgScan
