import ArgScan.Datum
import ArgScan.Text.Blank
import ArgScan.Text.Letters

/-!
# Spellings of an argument

Five facets say how an argument is spelled on a command line. Two of them fix the number of hyphens
before the name, and three say where an option's value stands: behind the name at once, behind an
equals sign, or in the next token. Facets combine freely. Without a hyphen facet the number is
inferred from the name's length, and without a value facet the value is the next token.

A written argument has one spelling and a recognised one may have several, so the facets are read in
two ways. `hyphenCountFor` chooses the hyphens to write and `acceptsHyphens` judges those that were
found. `separatorFor` decides how the text behind a recognised name gives the value; it tries the
equals sign first, then the end of the token, then the text at once.
-/

namespace ArgScan

/-- One choice in the spelling of an argument. -/
inductive Facet where
  /-- One hyphen before the name. -/
  | singleHyphen
  /-- Two hyphens before the name. -/
  | doubleHyphen
  /-- The value follows the name at once. -/
  | attached
  /-- The value follows an equals sign. -/
  | equals
  /-- The value is the next token. -/
  | nextToken
deriving DecidableEq

/-- A set of facets. -/
structure Facets where
  /-- One hyphen is set. -/
  singleHyphen : Bool := false
  /-- Two hyphens are set. -/
  doubleHyphen : Bool := false
  /-- A value at once is set. -/
  attached : Bool := false
  /-- A value behind an equals sign is set. -/
  equals : Bool := false
  /-- A value in the next token is set. -/
  nextToken : Bool := false
deriving DecidableEq

/-- How an option's value was set off from the name. -/
inductive Separator where
  | equals
  | attached
  | nextToken
deriving DecidableEq

/-- The characters that a separator takes within the token; the next token has none. -/
def Separator.width? : Separator → Option Nat
  | equals => some 1
  | attached => some 0
  | nextToken => none

/-- Why a value names no facet. -/
inductive FacetError where
  /-- The value is no text. -/
  | notText (found : Datum)
  /-- The text is the name of no facet. -/
  | unknown (name : String)

namespace Facet

/-- The facets, in the order in which messages list them. -/
def all : List Facet := [singleHyphen, doubleHyphen, attached, equals, nextToken]

/-- The full name of a facet. -/
def name : Facet → String
  | singleHyphen => "single_hyphen"
  | doubleHyphen => "double_hyphen"
  | attached => "value_sep_no_space"
  | equals => "value_sep_equals"
  | nextToken => "value_sep_next_arg"

/-- The short names of the facets. -/
def shortNames : List (String × Facet) :=
  [("single", singleHyphen), ("short", singleHyphen),
    ("double", doubleHyphen), ("long", doubleHyphen),
    ("no_space", attached), ("nospace", attached),
    ("equals", equals), ("eq", equals),
    ("next", nextToken), ("next_arg", nextToken), ("space", nextToken)]

/-- The plain form of a facet's name: small letters, no blanks around it, and an underscore for each
hyphen. -/
def plainName (s : String) : List Char :=
  ((Text.trim s.toList).map Text.lowerLetter).map fun c => if c = '-' then '_' else c

/-- The facet that a text names. A short name is compared in its plain form, a full name in
capitals. -/
def ofText? (s : String) : Option Facet :=
  let plain := plainName s
  match shortNames.find? fun entry => entry.1.toList = plain with
  | some entry => some entry.2
  | none =>
    all.find? fun f => f.name.toList.map Text.upperLetter = plain.map Text.upperLetter

/-- The facet that a value names. -/
def ofDatum : Datum → Except FacetError Facet
  | .text s =>
    match ofText? s with
    | some f => .ok f
    | none => .error (.unknown s)
  | d => .error (.notText d)

end Facet

/-- The wording of a facet error. -/
def FacetError.message : FacetError → String
  | .notText found => found.wording "Invalid SyntaxOptions name: "
  | .unknown name =>
    "Invalid SyntaxOptions name: '" ++ name ++ "'. Must be one of: " ++
      ", ".intercalate (Facet.all.map Facet.name)

namespace Facets

/-- The set without a facet. -/
def none : Facets := {}

/-- The set of one facet. -/
def singleton : Facet → Facets
  | .singleHyphen => { singleHyphen := true }
  | .doubleHyphen => { doubleHyphen := true }
  | .attached => { attached := true }
  | .equals => { equals := true }
  | .nextToken => { nextToken := true }

/-- The facets of either set. -/
def union (a b : Facets) : Facets where
  singleHyphen := a.singleHyphen || b.singleHyphen
  doubleHyphen := a.doubleHyphen || b.doubleHyphen
  attached := a.attached || b.attached
  equals := a.equals || b.equals
  nextToken := a.nextToken || b.nextToken

/-- The facets that values name, or the error of the first that names none. -/
def ofNames (names : List Datum) : Except FacetError Facets :=
  names.foldlM (fun facets name => do return facets.union (.singleton (← Facet.ofDatum name))) none

/-- The number of hyphens that a name suggests: one for a single character, else two. -/
def inferredHyphens (name : String) : Nat :=
  if name.length = 1 then 1 else 2

/-- The number of hyphens to write before a name. One hyphen wins over two. -/
def hyphenCountFor (f : Facets) (name : String) : Nat :=
  if f.singleHyphen then 1 else if f.doubleHyphen then 2 else inferredHyphens name

/-- Whether a number of hyphens may stand before a name. -/
def acceptsHyphens (f : Facets) (count : Nat) (name : String) : Bool :=
  if f.singleHyphen || f.doubleHyphen then
    (count == 1 && f.singleHyphen) || (count == 2 && f.doubleHyphen)
  else
    count == inferredHyphens name

/-- Whether the value may be the next token: by its facet, or because no value facet is set. -/
def allowsNextToken (f : Facets) : Bool :=
  f.nextToken || !(f.attached || f.equals)

/-- How the text behind a recognised name gives the value, if it does. -/
def separatorFor (f : Facets) (remainder : List Char) : Option Separator :=
  if remainder.head? = some '=' ∧ f.equals then some .equals
  else if remainder = [] ∧ f.allowsNextToken then some .nextToken
  else if f.attached then some .attached
  else Option.none

end Facets

end ArgScan
