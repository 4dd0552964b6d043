import EventIntake.Yaml.Token

/-!
# Nodes of YAML

A text as one tree of scalars, sequences and mappings. An alias stands for a node before it, and a
scalar with a tag is a text.
-/

namespace EventIntake.Yaml

/-- A node of a tree. -/
inductive Node where
  | scalar (s : Scalar)
  | sequence (items : List Node)
  | mapping (entries : List (Node × Node))
  deriving Inhabited

namespace Node

/-- The scalar that is not written at all. -/
def missing : Node := .scalar ⟨true, []⟩

/-- What is left to read, and the nodes that have a name, last first. -/
structure Rest where
  tokens : List Token
  named : List (List Char × Node)

/-- A reader of tokens, which may refuse them. -/
abbrev Reader := StateT Rest Option

/-- The next token. -/
def peek : Reader (Option Token) := do
  return (← get).tokens.head?

/-- Passes over the next token. -/
def advance : Reader Unit :=
  modify fun r => { r with tokens := r.tokens.drop 1 }

/-- Whether the next token is one of some. -/
def nextIn (ts : List Token) : Reader Bool := do
  return (← peek).any ts.contains

/-- Passes over the next token, which has to be this one. -/
def expect (t : Token) : Reader Unit := do
  if (← peek) = some t then advance else failure

/-- Passes over the next token, if it is this one. -/
def accept (t : Token) : Reader Bool := do
  if (← peek) = some t then
    advance
    return true
  else return false

/-- The name and the tag of a node, as far as they have been read. -/
structure Properties where
  name : Option (List Char)
  tag : Option (List Char)

/-- Reads the name and the tag of a node, each at most once. -/
def properties (p : Properties) (fuel : Nat) : Reader Properties :=
  match fuel with
  | 0 => return p
  | fuel + 1 => do
    match ← peek, p.name, p.tag with
    | some (.anchor name), none, _ =>
      advance
      properties { p with name := some name } fuel
    | some (.tag tag), _, none =>
      advance
      properties { p with tag := some tag } fuel
    | _, _, _ => return p

mutual

/-- Reads a node. `block` says whether a block collection may stand here, and `flush` whether a
sequence may that is indented no further than the mapping around it. -/
def read (fuel : Nat) (block flush : Bool) : Reader Node :=
  match fuel with
  | 0 => failure
  | fuel + 1 => do
    match ← peek with
    | some (.alias name) =>
      advance
      match (← get).named.lookup name with
      | some node => return node
      | none => failure
    | _ =>
      let p ← properties ⟨none, none⟩ 2
      let node ← match ← peek with
        | some .blockItem => if flush then .sequence <$> flushItems fuel else without p
        | some (.scalar s) => do
          advance
          pure (.scalar { s with plain := s.plain && p.tag.isNone })
        | some .flowSequence => do
          advance
          .sequence <$> flowItems fuel true
        | some .flowMapping => do
          advance
          .mapping <$> flowEntries fuel true
        | some .blockSequence => do
          if !block then failure
          advance
          .sequence <$> blockItems fuel
        | some .blockMapping => do
          if !block then failure
          advance
          .mapping <$> blockEntries fuel
        | _ => without p
      match p.name with
      | some name => modify fun r => { r with named := (name, node) :: r.named }
      | none => pure ()
      return node

/-- The node that only has a name or a tag. -/
def without (p : Properties) : Reader Node :=
  if p.name.isSome || p.tag.isSome then return .scalar ⟨p.tag.isNone, []⟩ else failure

/-- Reads a node, or takes it for missing if one of some tokens comes next. -/
def readUnless (fuel : Nat) (ends : List Token) (block flush : Bool) : Reader Node :=
  match fuel with
  | 0 => failure
  | fuel + 1 => do
    if ← nextIn ends then return missing else read fuel block flush

/-- Reads the items of a block sequence up to its end. -/
def blockItems (fuel : Nat) : Reader (List Node) :=
  match fuel with
  | 0 => failure
  | fuel + 1 => do
    if ← accept .blockEnd then return []
    expect .blockItem
    let item ← readUnless fuel [.blockItem, .blockEnd] true false
    return item :: (← blockItems fuel)

/-- Reads the items of a sequence that is indented no further than the mapping around it. -/
def flushItems (fuel : Nat) : Reader (List Node) :=
  match fuel with
  | 0 => failure
  | fuel + 1 => do
    if ← accept .blockItem then
      let item ← readUnless fuel [.blockItem, .key, .value, .blockEnd] true false
      return item :: (← flushItems fuel)
    else return []

/-- Reads the entries of a block mapping up to its end. -/
def blockEntries (fuel : Nat) : Reader (List (Node × Node)) :=
  match fuel with
  | 0 => failure
  | fuel + 1 => do
    if ← accept .blockEnd then return []
    expect .key
    let ends := [.key, .value, .blockEnd]
    let key ← readUnless fuel ends true true
    let value ← if ← accept .value then readUnless fuel ends true true else pure missing
    return (key, value) :: (← blockEntries fuel)

/-- Reads the items of a flow sequence up to its end; `first` says whether none comes before. -/
def flowItems (fuel : Nat) (first : Bool) : Reader (List Node) :=
  match fuel with
  | 0 => failure
  | fuel + 1 => do
    if ← accept .flowSequenceEnd then return []
    if !first then expect .comma
    if ← accept .flowSequenceEnd then return []
    let item ← if ← accept .key then
        let key ← readUnless fuel [.value, .comma, .flowSequenceEnd] false false
        let value ← if ← accept .value then readUnless fuel [.comma, .flowSequenceEnd] false false
          else pure missing
        pure (.mapping [(key, value)])
      else read fuel false false
    return item :: (← flowItems fuel false)

/-- Reads the entries of a flow mapping up to its end; `first` says whether none comes before. -/
def flowEntries (fuel : Nat) (first : Bool) : Reader (List (Node × Node)) :=
  match fuel with
  | 0 => failure
  | fuel + 1 => do
    if ← accept .flowMappingEnd then return []
    if !first then expect .comma
    if ← accept .flowMappingEnd then return []
    let (key, value) ← if ← accept .key then
        let key ← readUnless fuel [.value, .comma, .flowMappingEnd] false false
        let value ← if ← accept .value then readUnless fuel [.comma, .flowMappingEnd] false false
          else pure missing
        pure (key, value)
      else do pure (← read fuel false false, missing)
    return (key, value) :: (← flowEntries fuel false)

end

/-- Passes over the document markers of one kind. -/
def dropMarkers (t : Token) : Reader Unit :=
  modify fun r => { r with tokens := r.tokens.dropWhile (· = t) }

/-- Reads the one document of a text; none, if it has none. -/
def document (fuel : Nat) : Reader (Option Node) := do
  dropMarkers .documentEnd
  let directed ← nextIn [.directive]
  dropMarkers .directive
  let marked ← accept .documentStart
  if directed && !marked then failure
  if !marked && (← peek).isNone then return none
  let node ← if (← peek).isNone then pure missing
    else readUnless fuel [.directive, .documentStart, .documentEnd] true false
  dropMarkers .documentEnd
  if (← peek).isNone then return some node else failure

/-- The tree that a text is; none, if there is nothing in it. -/
def parse? (cs : List Char) : Option (Option Node) := do
  let tokens ← tokens? cs
  (document (4 * tokens.length + 8)).run' ⟨tokens, []⟩

end Node

end EventIntake.Yaml
