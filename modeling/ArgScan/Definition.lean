import ArgScan.Facets
import ArgScan.Finding
import ArgScan.Kind
import ArgScan.Rendering

/-!
# Definitions of arguments

A definition names an argument, says its kind and fixes its spellings. It is used in two directions:
`render` writes the argument as tokens, and `claim?` decides whether a token is one of its
spellings. A token is taken apart into its leading hyphens and its body. A flag's body is a name; an
option's body is a name and then whatever its facets let stand for the value. The name and then the
aliases are tried in order, and the first that fits decides.
-/

namespace ArgScan

/-- An argument: its kind, its names and its spellings. No name is empty. -/
@[ext]
structure Definition where
  /-- Whether the argument carries a text. -/
  kind : Kind
  /-- The name that the argument is written with. -/
  name : String
  /-- Further names that are recognised. -/
  aliases : List String
  /-- The spellings. -/
  facets : Facets
  /-- The name is not empty. -/
  name_ne : name ≠ ""
  /-- No alias is empty. -/
  alias_ne : ∀ a ∈ aliases, a ≠ ""
deriving DecidableEq

/-- An option was to be written without a value. -/
structure MissingValue where
  /-- The option's name. -/
  name : String
deriving DecidableEq

/-- The wording of the refusal. -/
def MissingValue.message (e : MissingValue) : String :=
  "Option '" ++ e.name ++ "' requires a value to format"

/-- How a definition takes a token that it claims. -/
inductive Claim where
  /-- The token is the whole of a flag. -/
  | flag
  /-- The token holds an option's value. -/
  | inline (value : String)
  /-- The token after it is the option's value. -/
  | next
deriving DecidableEq

/-- The number of hyphens that a token begins with. -/
def hyphenCount (token : String) : Nat :=
  (token.toList.takeWhile (· = '-')).length

namespace Definition

/-- The name and then the aliases. -/
def names (d : Definition) : List String := d.name :: d.aliases

/-- Whether the argument is a flag. -/
def isFlag (d : Definition) : Bool := d.kind = .flag

/-- Whether a text is one of the names. -/
def isNamed (d : Definition) (text : String) : Bool := d.names.contains text

/-! ## Writing -/

/-- The hyphens that the argument is written with. -/
def hyphens (d : Definition) : String :=
  String.ofList (List.replicate (d.facets.hyphenCountFor d.name) '-')

/-- The written argument without a value: the hyphens and the name. -/
def head (d : Definition) : String := d.hyphens ++ d.name

/-- The tokens of the argument. A flag ignores the value. An option's value stands behind an equals
sign if that facet is set, else at once behind the name if that one is, else in a second token. -/
def render (d : Definition) (value : Option String) : Except MissingValue Rendering :=
  if d.isFlag then .ok (.one d.head)
  else
    match value with
    | none => .error ⟨d.name⟩
    | some v =>
      if d.facets.equals then .ok (.one (d.head ++ "=" ++ v))
      else if d.facets.attached then .ok (.one (d.head ++ v))
      else .ok (.two d.head v)

/-! ## Recognising -/

/-- How a name fits the hyphens and the body of a token, if it does. -/
def fit? (d : Definition) (hyphens : Nat) (body : List Char) (name : String) : Option Claim :=
  if !d.facets.acceptsHyphens hyphens name then none
  else
    match d.kind with
    | .flag => if body = name.toList then some .flag else none
    | .option =>
      match name.toList.isPrefixOf? body with
      | none => none
      | some remainder =>
        (d.facets.separatorFor remainder).map fun
          | .equals => .inline (String.ofList (remainder.drop 1))
          | .attached => .inline (String.ofList remainder)
          | .nextToken => .next

/-- How the definition takes a token, if it claims it: by the first name that fits. A token without
a leading hyphen is claimed by nothing. -/
def claim? (d : Definition) (token : String) : Option Claim :=
  let hyphens := hyphenCount token
  if hyphens = 0 then none
  else d.names.findSome? (d.fit? hyphens (token.toList.drop hyphens))

end Definition

end ArgScan
