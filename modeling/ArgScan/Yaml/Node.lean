import ArgScan.Yaml.Tag
import ArgScan.Yaml.Token.Scan

/-!
# Nodes of YAML documents

A document is a tree of nodes: texts, sequences and mappings, each with its tag. The tokens of a
text are read into the tree by one function for each kind of collection; all of them share an
allowance that every two steps reduce by at least one token. An anchor gives a node a name, and an
alias stands for the named node, which must come before it. Within its own anchor, a collection is
not complete yet, and an alias to it stands for the enclosing collection.
-/

namespace ArgScan.Yaml

/-- A node of a document. -/
inductive Node where
  | scalar (tag : Tag) (text : String)
  | sequence (tag : Tag) (items : List Node)
  | mapping (tag : Tag) (entries : List (Node × Node))
  /-- The collection that the node itself is in. -/
  | enclosing (isMapping : Bool)

namespace Node

/-- What a node stands for. -/
def tag : Node → Tag
  | scalar tag _ | sequence tag _ | mapping tag _ => tag
  | enclosing isMapping => if isMapping then .map else .seq

/-- The node where nothing stands. -/
def empty : Node := scalar .null ""

/-- What is left to read of a document, and what was declared before. -/
structure Source where
  /-- The tokens that are left. -/
  tokens : List Token
  /-- The short handles of tags and the starts that they stand for. -/
  handles : List (String × String)
  /-- The named nodes, the last one first. -/
  anchors : List (String × Node) := []

/-- The properties that a node may have before its content. -/
structure Properties where
  /-- Its name. -/
  anchor : Option String := none
  /-- The full name of its tag. -/
  tag : Option String := none

/-- The full name of a tag. -/
def Source.fullTag (s : Source) (handle : Option String) (rest : String) :
    Except Error String :=
  match handle with
  | none => .ok rest
  | some h =>
    match s.handles.lookup h with
    | some start => .ok (start ++ rest)
    | none => .error .malformed

/-- The properties at the start of the tokens, in either order. -/
def Source.properties (s : Source) : Except Error (Properties × List Token) := do
  match s.tokens with
  | .anchor name :: .tag h rest :: tokens | .tag h rest :: .anchor name :: tokens =>
    return ({ anchor := some name, tag := some (← s.fullTag h rest) }, tokens)
  | .anchor name :: tokens => return ({ anchor := some name }, tokens)
  | .tag h rest :: tokens => return ({ tag := some (← s.fullTag h rest) }, tokens)
  | tokens => return ({}, tokens)

/-- Whether nothing is said about the tag. A lone exclamation mark says no more. -/
def Properties.isTagless (p : Properties) : Bool := p.tag = none || p.tag = some "!"

/-- The tag of a collection. -/
def Properties.tagOr (p : Properties) (default : Tag) : Tag :=
  if p.isTagless then default else (p.tag.map Tag.ofName).getD default

/-- The tag of a text, which without a tag of its own depends on its form if it is plain, or if it
has the lone exclamation mark. -/
def Properties.tagOfText (p : Properties) (text : String) (plain : Bool) : Tag :=
  match p.tag with
  | none => if plain then Tag.ofPlain text.toList else .str
  | some "!" => Tag.ofPlain text.toList
  | some name => Tag.ofName name

/-- Enters a node under its anchor, if it has one. -/
def Source.name (s : Source) (p : Properties) (n : Node) : Source :=
  match p.anchor with
  | some name => { s with anchors := (name, n) :: s.anchors }
  | none => s

/-- Whether a list of tokens begins with one that ends a value in a block. -/
def endsBlockValue : List Token → Bool
  | .key :: _ | .value :: _ | .blockEnd :: _ => true
  | _ => false

mutual
/-- The node at the start of the tokens. `block` allows block collections and `indentless` a block
sequence that is not indented more than the mapping it is in. -/
def read (block indentless : Bool) : Nat → Source → Except Error (Node × Source)
  | 0, _ => .error .malformed
  | steps + 1, s =>
    match s.tokens with
    | .alias name :: tokens =>
      match s.anchors.lookup name with
      | some n => .ok (n, { s with tokens })
      | none => .error .malformed
    | _ => do
      let (p, tokens) ← s.properties
      if p.anchor.any fun a => (s.anchors.lookup a).isSome then .error .malformed
      let inner (isMapping : Bool) (tokens : List Token) : Source :=
        { s with tokens }.name p (.enclosing isMapping)
      let finish (n : Node) (s : Source) : Except Error (Node × Source) := .ok (n, s.name p n)
      let bare : Except Error (Node × Source) :=
        if p.anchor.isSome || p.tag.isSome then
          finish (.scalar (p.tagOfText "" true) "") { s with tokens }
        else .error .malformed
      match tokens with
      | .scalar text plain :: tokens =>
        finish (.scalar (p.tagOfText text plain) text) { s with tokens }
      | .flowSequenceStart :: tokens =>
        let (items, s) ← readFlowSequence true steps (inner false tokens)
        finish (.sequence (p.tagOr .seq) items) s
      | .flowMappingStart :: tokens =>
        let (entries, s) ← readFlowMapping true steps (inner true tokens)
        finish (.mapping (p.tagOr .map) entries) s
      | .blockEntry :: _ =>
        if indentless then
          let (items, s) ← readIndentless steps (inner false tokens)
          finish (.sequence (p.tagOr .seq) items) s
        else bare
      | .blockSequenceStart :: rest =>
        if block then
          let (items, s) ← readBlockSequence steps (inner false rest)
          finish (.sequence (p.tagOr .seq) items) s
        else bare
      | .blockMappingStart :: rest =>
        if block then
          let (entries, s) ← readBlockMapping steps (inner true rest)
          finish (.mapping (p.tagOr .map) entries) s
        else bare
      | _ => bare

/-- The entries of a block sequence, up to its end. -/
def readBlockSequence : Nat → Source → Except Error (List Node × Source)
  | 0, _ => .error .malformed
  | steps + 1, s => do
    match s.tokens with
    | .blockEntry :: tokens =>
      let (item, s) ←
        match tokens with
        | .blockEntry :: _ | .blockEnd :: _ => pure (empty, { s with tokens })
        | _ => read true false steps { s with tokens }
      let (items, s) ← readBlockSequence steps s
      return (item :: items, s)
    | .blockEnd :: tokens => return ([], { s with tokens })
    | _ => .error .malformed

/-- The entries of a block sequence without an end of its own. -/
def readIndentless : Nat → Source → Except Error (List Node × Source)
  | 0, _ => .error .malformed
  | steps + 1, s => do
    match s.tokens with
    | .blockEntry :: tokens =>
      let isEmpty := endsBlockValue tokens || tokens.head? = some .blockEntry
      let (item, s) ←
        if isEmpty then pure (empty, { s with tokens }) else read true false steps { s with tokens }
      let (items, s) ← readIndentless steps s
      return (item :: items, s)
    | _ => return ([], s)

/-- The entries of a block mapping, up to its end. -/
def readBlockMapping : Nat → Source → Except Error (List (Node × Node) × Source)
  | 0, _ => .error .malformed
  | steps + 1, s => do
    match s.tokens with
    | .blockEnd :: tokens => return ([], { s with tokens })
    | .key :: tokens =>
      let (key, s) ←
        if endsBlockValue tokens then pure (empty, { s with tokens })
        else read true true steps { s with tokens }
      readBlockValue key steps s
    | _ => .error .malformed

/-- The value under a key of a block mapping, and the entries after it. -/
def readBlockValue (key : Node) : Nat → Source → Except Error (List (Node × Node) × Source)
  | 0, _ => .error .malformed
  | steps + 1, s => do
    let (value, s) ←
      match s.tokens with
      | .value :: tokens =>
        if endsBlockValue tokens then pure (empty, { s with tokens })
        else read true true steps { s with tokens }
      | _ => pure (empty, s)
    let (entries, s) ← readBlockMapping steps s
    return ((key, value) :: entries, s)

/-- The entries of a sequence in brackets, up to its end. All but the first have a comma before
them, and one that is a key stands for a mapping of a single entry. -/
def readFlowSequence (first : Bool) : Nat → Source → Except Error (List Node × Source)
  | 0, _ => .error .malformed
  | steps + 1, s => do
    let tokens ←
      match first, s.tokens with
      | true, tokens => pure tokens
      | false, .flowEntry :: tokens => pure tokens
      | false, .flowSequenceEnd :: tokens => pure (.flowSequenceEnd :: tokens)
      | false, _ => .error .malformed
    match tokens with
    | .flowSequenceEnd :: tokens => return ([], { s with tokens })
    | .key :: tokens =>
      let (pair, s) ← readFlowPair steps { s with tokens }
      let (items, s) ← readFlowSequence false steps s
      return (.mapping .map [pair] :: items, s)
    | _ =>
      let (item, s) ← read false false steps { s with tokens }
      let (items, s) ← readFlowSequence false steps s
      return (item :: items, s)

/-- The single entry of a mapping without brackets in a sequence with brackets, behind its key
indicator. -/
def readFlowPair : Nat → Source → Except Error ((Node × Node) × Source)
  | 0, _ => .error .malformed
  | steps + 1, s => do
    let (key, s) ←
      match s.tokens with
      | .value :: _ | .flowEntry :: _ | .flowSequenceEnd :: _ => pure (empty, s)
      | _ => read false false steps s
    let (value, s) ←
      match s.tokens with
      | .value :: tokens =>
        match tokens with
        | .flowEntry :: _ | .flowSequenceEnd :: _ => pure (empty, { s with tokens })
        | _ => read false false steps { s with tokens }
      | _ => pure (empty, s)
    return ((key, value), s)

/-- The entries of a mapping in brackets, up to its end. All but the first have a comma before them,
and one without a key indicator has an empty value. -/
def readFlowMapping (first : Bool) : Nat → Source → Except Error (List (Node × Node) × Source)
  | 0, _ => .error .malformed
  | steps + 1, s => do
    let tokens ←
      match first, s.tokens with
      | true, tokens => pure tokens
      | false, .flowEntry :: tokens => pure tokens
      | false, .flowMappingEnd :: tokens => pure (.flowMappingEnd :: tokens)
      | false, _ => .error .malformed
    match tokens with
    | .flowMappingEnd :: tokens => return ([], { s with tokens })
    | .key :: tokens =>
      let (key, s) ←
        match tokens with
        | .value :: _ | .flowEntry :: _ | .flowMappingEnd :: _ => pure (empty, { s with tokens })
        | _ => read false false steps { s with tokens }
      let (value, s) ←
        match s.tokens with
        | .value :: tokens =>
          match tokens with
          | .flowEntry :: _ | .flowMappingEnd :: _ => pure (empty, { s with tokens })
          | _ => read false false steps { s with tokens }
        | _ => pure (empty, s)
      let (entries, s) ← readFlowMapping false steps s
      return ((key, value) :: entries, s)
    | _ =>
      let (key, s) ← read false false steps { s with tokens }
      let (entries, s) ← readFlowMapping false steps s
      return ((key, empty) :: entries, s)
end

/-! ## Documents -/

/-- The handles that every document has. -/
def defaultHandles : List (String × String) := [("!", "!"), ("!!", Tag.standardStart)]

/-- The directives at the start of the tokens: the handles that they declare, and the tokens behind
them. The version may be given once, and so may each handle. -/
def directives : Bool → List (String × String) → List Token →
    Except Error (List (String × String) × List Token)
  | versioned, handles, .version major :: tokens =>
    if versioned || major ≠ 1 then .error .malformed else directives true handles tokens
  | versioned, handles, .tagHandle h start :: tokens =>
    if (handles.lookup h).isSome then .error .malformed
    else directives versioned ((h, start) :: handles) tokens
  | versioned, handles, .directive :: tokens => directives versioned handles tokens
  | _, handles, tokens => .ok (handles ++ defaultHandles, tokens)

/-- An allowance of steps for reading tokens. -/
def allowance (tokens : List Token) : Nat := 3 * tokens.length + 3

/-- The root of a document whose content begins at the tokens, and the tokens behind it. -/
def readRoot (handles : List (String × String)) (tokens : List Token) :
    Except Error (Node × List Token) := do
  let (n, s) ← read true false (allowance tokens) { tokens, handles }
  return (n, s.tokens)

/-- The root of a document that begins with directives or a document mark. -/
def readExplicit (tokens : List Token) : Except Error (Node × List Token) := do
  let (handles, tokens) ← directives false [] tokens
  match tokens with
  | .documentStart :: tokens =>
    match tokens with
    | [] | .documentStart :: _ | .documentEnd :: _ | .directive :: _ | .version _ :: _
    | .tagHandle .. :: _ => return (empty, tokens)
    | _ => readRoot handles tokens
  | _ => .error .malformed

/-- The root of the only document that the tokens hold; `none` if they hold none. -/
def ofTokens? (tokens : List Token) : Except Error (Option Node) := do
  let (n, rest) ←
    match tokens with
    | [] => return none
    | .directive :: _ | .version _ :: _ | .tagHandle .. :: _ | .documentStart :: _ =>
      readExplicit tokens
    | _ => readRoot defaultHandles tokens
  if rest.all (· = .documentEnd) then return some n else .error .malformed

end Node

end ArgScan.Yaml
