import EventIntake.Yaml.Scalar

/-!
# Tokens of YAML

The marks and scalars of a text, with the blocks that its indentation opens and closes. Whether a
scalar or a collection is a key is known only when a colon follows it, so a key's mark is put before
tokens that have been read already. Only what stands on one line can be such a key.
-/

namespace EventIntake.Yaml

/-- A mark or a scalar. -/
inductive Token where
  | directive
  | documentStart
  | documentEnd
  | blockSequence
  | blockMapping
  | blockEnd
  | flowSequence
  | flowSequenceEnd
  | flowMapping
  | flowMappingEnd
  /-- the hyphen before an item -/
  | blockItem
  /-- the comma after an item -/
  | comma
  | key
  | value
  | alias (name : List Char)
  | anchor (name : List Char)
  | tag (text : List Char)
  | scalar (s : Scalar)
  deriving DecidableEq, Repr, Inhabited

/-- Something that is a key if a colon follows it. -/
structure PossibleKey where
  /-- whether nothing but a key may stand there -/
  required : Bool
  /-- how many tokens come before it -/
  token : Nat
  /-- where it begins -/
  place : Place

/-- How far a text has been split into tokens. -/
structure Scan where
  input : List Place
  tokens : Array Token
  /-- the columns of the blocks that are open, innermost first; −1 is the document -/
  indents : List Int
  /-- for the block context and each flow collection that is open, innermost first, what may be a key
  there -/
  keys : List (Option PossibleKey)
  /-- whether a key may begin at the next token -/
  keyAllowed : Bool

namespace Scan

/-- How many characters a key without a mark of its own may have. -/
def longestKey : Nat := 1024

/-- Whether a flow collection is open. -/
def inFlow (s : Scan) : Bool :=
  s.keys.length > 1

/-- The column of the innermost block. -/
def indent (s : Scan) : Int :=
  s.indents.head?.getD (-1)

/-- Adds a token. -/
def push (s : Scan) (t : Token) : Scan :=
  { s with tokens := s.tokens.push t }

/-- Puts a token before others. -/
def insert (s : Scan) (i : Nat) (t : Token) : Scan :=
  { s with tokens := s.tokens.extract 0 i ++ #[t] ++ s.tokens.extract i s.tokens.size }

/-- Passes over blanks, comments and line breaks. Outside flow collections a key may begin on every
new line, and no tab may stand where one may begin. -/
def skipFrom (inFlow inComment keyAllowed : Bool) : List Place → Bool × List Place
  | [] => (keyAllowed, [])
  | p :: rest =>
    if isBreak p.char then skipFrom inFlow false (keyAllowed || !inFlow) rest
    else if inComment then skipFrom inFlow true keyAllowed rest
    else if p.char == ' ' || p.char == '\t' && (inFlow || !keyAllowed) then
      skipFrom inFlow false keyAllowed rest
    else if p.char == '#' then skipFrom inFlow true keyAllowed rest
    else (keyAllowed, p :: rest)

/-- Passes over blanks, comments and line breaks. -/
def skip (s : Scan) : Scan :=
  let (keyAllowed, input) := skipFrom s.inFlow false s.keyAllowed s.input
  { s with input, keyAllowed }

/-! ## Blocks -/

/-- Closes the blocks that begin right of a column. -/
def closeBlocks (s : Scan) (column : Int) : Scan :=
  if s.inFlow then s
  else
    let closed := s.indents.takeWhile (column < ·)
    { s with
      indents := s.indents.dropWhile (column < ·)
      tokens := s.tokens ++ (Array.replicate closed.length Token.blockEnd) }

/-- Opens a block at a column, if none that is open begins there or right of it. Its token comes
before the token `i`. -/
def openBlock (s : Scan) (column : Nat) (i : Nat) (t : Token) : Scan :=
  if s.inFlow || column ≤ s.indent then s
  else { s.insert i t with indents := column :: s.indents }

/-! ## Keys -/

/-- Gives up what may be a key in the innermost context, unless it must be one. -/
def dropKey? (s : Scan) : Option Scan :=
  match s.keys with
  | some k :: outer => if k.required then none else some { s with keys := none :: outer }
  | _ => some s

/-- Gives up whatever can be no key any more, because it is too long or ends on another line. -/
def dropStale? (s : Scan) : Option Scan := do
  match s.input with
  | [] => some s
  | here :: _ =>
    let keys ← s.keys.mapM fun key =>
      match key with
      | some k =>
        if k.place.line < here.line || k.place.index + longestKey < here.index then
          if k.required then none else some none
        else some (some k)
      | none => some none
    return { s with keys }

/-- Notes that the next token may be a key. -/
def saveKey? (s : Scan) (here : Place) : Option Scan :=
  if s.keyAllowed then do
    let s ← s.dropKey?
    let required := !s.inFlow && s.indent == here.column
    return { s with keys := some ⟨required, s.tokens.size, here⟩ :: s.keys.drop 1 }
  else some s

/-! ## Single tokens -/

/-- Whether a character may occur in a name. -/
def isNameChar (c : Char) : Bool :=
  c.isAlphanum || c == '-' || c == '_'

/-- A directive for the version, with the numbers it may give. -/
def versions : List (List Char) := ["1.1".toList, "1.2".toList]

/-- Passes over a directive after its percent sign. -/
def skipDirective? (input : List Place) : Option (List Place) := do
  let name := (input.takeWhile (isNameChar ·.char)).map (·.char)
  let rest := input.drop name.length
  let rest ← if name == "YAML".toList then
      let rest := rest.dropWhile (isBlank ·.char)
      let version := (rest.takeWhile fun p => !blankNext [p]).map (·.char)
      if versions.contains version then some (rest.drop version.length) else none
    else if name == "TAG".toList then some (rest.dropWhile (!isBreak ·.char))
    else none
  endOfLine? rest

/-- Reads the name of an anchor or an alias. -/
def name? (input : List Place) : Option (List Char × List Place) :=
  let name := (input.takeWhile (isNameChar ·.char)).map (·.char)
  let rest := input.drop name.length
  if name.isEmpty || !(blankNext rest || rest.head?.any fun p => "?:,]\x7d%@\x60".contains p.char) then
    none
  else some (name, rest)

/-- Reads a tag. -/
def tag? (inFlow : Bool) (input : List Place) : Option (List Char × List Place) :=
  let text := (input.takeWhile fun p => !blankNext [p] && !(inFlow && isFlowMark p.char)).map (·.char)
  let rest := input.drop text.length
  if blankNext rest || next ',' rest then some (text, rest) else none

/-- Whether a plain scalar may begin with these characters. -/
def beginsPlain (inFlow : Bool) : List Place → Bool
  | [] => false
  | p :: rest =>
    if blankNext [p] then false
    else if p.char == '-' then !(rest.head?.all fun q => isBlank q.char)
    else if p.char == '?' || p.char == ':' then !inFlow && !blankNext rest
    else !",[]\x7b\x7d#&*!|>'\x22%@\x60".contains p.char

/-- Ends all blocks for a document marker. -/
def endDocument? (s : Scan) : Option Scan := do
  let s ← (s.closeBlocks (-1)).dropKey?
  return { s with keyAllowed := false }

/-- Begins a flow collection. -/
def openFlow? (s : Scan) (here : Place) (rest : List Place) (t : Token) : Option Scan := do
  let s ← s.saveKey? here
  return { s.push t with input := rest, keys := none :: s.keys, keyAllowed := true }

/-- Ends a flow collection. -/
def closeFlow? (s : Scan) (rest : List Place) (t : Token) : Option Scan := do
  let s ← s.dropKey?
  return { s.push t with
    input := rest
    keys := if s.inFlow then s.keys.drop 1 else s.keys
    keyAllowed := false }

/-- Reads a hyphen before an item. -/
def blockItem? (s : Scan) (here : Place) (rest : List Place) : Option Scan := do
  if !s.inFlow && !s.keyAllowed then none
  let s ← (s.openBlock here.column s.tokens.size .blockSequence).dropKey?
  return { s.push .blockItem with input := rest, keyAllowed := true }

/-- Reads a question mark before a key. -/
def keyMark? (s : Scan) (here : Place) (rest : List Place) : Option Scan := do
  if !s.inFlow && !s.keyAllowed then none
  let s ← (s.openBlock here.column s.tokens.size .blockMapping).dropKey?
  return { s.push .key with input := rest, keyAllowed := !s.inFlow }

/-- Reads a colon before a value, which makes a key of what may be one. -/
def valueMark? (s : Scan) (here : Place) (rest : List Place) : Option Scan :=
  match s.keys with
  | some k :: outer =>
    let s := (s.insert k.token .key).openBlock k.place.column k.token .blockMapping
    some { s.push .value with input := rest, keys := none :: outer, keyAllowed := false }
  | _ =>
    if !s.inFlow && !s.keyAllowed then none
    else
      let s := s.openBlock here.column s.tokens.size .blockMapping
      some { s.push .value with input := rest, keyAllowed := !s.inFlow }

/-- Adds something that may be a key, which ends before `rest`. -/
def content? (s : Scan) (here : Place) (t : Token) (rest : List Place) : Option Scan := do
  let s ← s.saveKey? here
  return { s.push t with input := rest, keyAllowed := false }

/-- Reads the token that begins with the character `here`. -/
def token? (s : Scan) (here : Place) (rest : List Place) : Option Scan :=
  let c := here.char
  if here.column == 0 && c == '%' then do
    let rest ← skipDirective? rest
    return { (← s.endDocument?).push .directive with input := rest }
  else if markerNext s.input then do
    return { (← s.endDocument?).push (if c == '-' then .documentStart else .documentEnd) with
      input := rest.drop 2 }
  else if c == '[' then s.openFlow? here rest .flowSequence
  else if c == '\x7b' then s.openFlow? here rest .flowMapping
  else if c == ']' then s.closeFlow? rest .flowSequenceEnd
  else if c == '\x7d' then s.closeFlow? rest .flowMappingEnd
  else if c == ',' then do
    return { (← s.dropKey?).push .comma with input := rest, keyAllowed := true }
  else if c == '-' && blankNext rest then s.blockItem? here rest
  else if c == '?' && (s.inFlow || blankNext rest) then s.keyMark? here rest
  else if c == ':' && (s.inFlow || blankNext rest) then s.valueMark? here rest
  else if c == '*' then do
    let (name, rest) ← name? rest
    s.content? here (.alias name) rest
  else if c == '&' then do
    let (name, rest) ← name? rest
    s.content? here (.anchor name) rest
  else if c == '!' then do
    let (text, rest) ← tag? s.inFlow s.input
    s.content? here (.tag text) rest
  else if (c == '|' || c == '>') && !s.inFlow then do
    let s ← s.dropKey?
    let (scalar, rest) ← block? (c == '>') s.indent rest
    return { s.push (.scalar scalar) with input := rest, keyAllowed := true }
  else if c == '\'' || c == '\x22' then do
    let (scalar, rest) ← quoted? c rest
    s.content? here (.scalar scalar) rest
  else if beginsPlain s.inFlow s.input then do
    let (scalar, broken, rest) ← plain? s.inFlow (s.indent + 1) s.input
    let s ← s.content? here (.scalar scalar) rest
    return { s with keyAllowed := broken }
  else none

/-- Splits the rest of a text into tokens. -/
def run? (fuel : Nat) (s : Scan) : Option (Array Token) :=
  match fuel with
  | 0 => none
  | fuel + 1 => do
    let s ← s.skip.dropStale?
    match s.input with
    | [] => return (← s.endDocument?).tokens
    | here :: rest => run? fuel (← (s.closeBlocks here.column).token? here rest)

end Scan

/-- The tokens of a text. -/
def tokens? (cs : List Char) : Option (List Token) := do
  let input ← places? cs
  let tokens ← Scan.run? (input.length + 1) ⟨input, #[], [-1], [none], true⟩
  return tokens.toList

end EventIntake.Yaml
