import EventIntake.Text.Digit
import EventIntake.Yaml.Place

/-!
# Scalars

The text of a scalar in its three ways of writing. A plain one goes on as long as nothing has another
meaning, a quoted one up to its closing quote, and a block one as long as the lines are indented.
A line break within a plain or quoted text is read as a blank, and an empty line as a line break.
-/

namespace EventIntake.Yaml

/-! ## Blanks within a text -/

/-- The blanks between two pieces of a text. -/
structure Gap where
  /-- the blanks before the first line break, last first -/
  blanks : List Char
  /-- the line breaks, last first -/
  breaks : List Char

/-- What a gap is read as. -/
def Gap.text (g : Gap) : List Char :=
  match g.breaks.reverse with
  | [] => g.blanks.reverse
  | ['\n'] => [' ']
  | '\n' :: others => others
  | breaks => breaks

/-- Reads the blanks that follow. After a line break no tab may stand left of the column `indent`. -/
def Gap.read? (indent : Int) (g : Gap) : List Place → Option (Gap × List Place)
  | [] => some (g, [])
  | p :: rest =>
    if isBreak p.char then read? indent { g with breaks := p.char :: g.breaks } rest
    else if isBlank p.char then
      if g.breaks.isEmpty then read? indent { g with blanks := p.char :: g.blanks } rest
      else if p.char == '\t' && (p.column : Int) < indent then none
      else read? indent g rest
    else some (g, p :: rest)

/-- Whether a document marker comes next: three hyphens or dots on their own at the beginning of a
line. -/
def markerNext : List Place → Bool
  | a :: b :: c :: rest =>
    a.column == 0 && (a.char == '-' || a.char == '.') && b.char == a.char && c.char == a.char &&
      blankNext rest
  | _ => false

/-! ## Plain scalars -/

/-- Whether a character has a meaning of its own inside a flow collection. -/
def isFlowMark (c : Char) : Bool :=
  ",[]\x7b\x7d".contains c

/-- Reads a piece of a plain scalar up to a blank, or to something that has another meaning; `done`
holds the text before, last first. -/
def plainPiece? (inFlow : Bool) (done : List Char) : List Place → Option (List Char × List Place)
  | [] => some (done, [])
  | p :: rest =>
    if blankNext [p] then some (done, p :: rest)
    else if p.char == ':' && inFlow && rest.head?.any (fun q => isFlowMark q.char || q.char == '?') then
      none
    else if p.char == ':' && blankNext rest || inFlow && isFlowMark p.char then
      some (done, p :: rest)
    else plainPiece? inFlow (p.char :: done) rest

/-- A scalar that has been read. -/
structure Scalar where
  /-- whether it is written without quotes, so that it may be something else than a text -/
  plain : Bool
  text : List Char
  deriving DecidableEq, Repr, Inhabited

/-- Reads the rest of a plain scalar; `done` holds the text before, last first, and `gap` the blanks
after it. Also says whether a line break comes at its end. -/
def plainFrom? (inFlow : Bool) (indent : Int) (fuel : Nat) (done : List Char) (gap : Gap)
    (input : List Place) : Option (List Char × Bool × List Place) :=
  let stop := some (done, !gap.breaks.isEmpty, input)
  match fuel with
  | 0 => none
  | fuel + 1 =>
    if markerNext input || next '#' input then stop
    else do
      let (piece, rest) ← plainPiece? inFlow [] input
      if piece.isEmpty then stop
      else
        let done := piece ++ gap.text.reverse ++ done
        if rest.isEmpty || !blankNext rest then some (done, false, rest)
        else
          let (gap, rest) ← Gap.read? indent ⟨[], []⟩ rest
          if !inFlow && rest.head?.any (fun p => (p.column : Int) < indent) then
            some (done, !gap.breaks.isEmpty, rest)
          else plainFrom? inFlow indent fuel done gap rest

/-- Reads a plain scalar. -/
def plain? (inFlow : Bool) (indent : Int) (input : List Place) :
    Option (Scalar × Bool × List Place) := do
  let (text, broken, rest) ← plainFrom? inFlow indent (input.length + 1) [] ⟨[], []⟩ input
  return (⟨true, text.reverse⟩, broken, rest)

/-! ## Quoted scalars -/

/-- The character with the code point that some hexadecimal digits give. -/
def charOfHex? (digits : List Place) : Option Char := do
  let n ← Text.numberIn? 16 (digits.map Place.char)
  if n.isValidChar then some (Char.ofNat n) else none

/-- What a backslash and a letter stand for. -/
def escapes : List (Char × Char) :=
  [('0', '\x00'), ('a', '\x07'), ('b', '\x08'), ('t', '\t'), ('\t', '\t'), ('n', '\n'),
    ('v', '\x0B'), ('f', '\x0C'), ('r', '\r'), ('e', '\x1B'), (' ', ' '), ('\x22', '\x22'),
    ('/', '/'), ('\\', '\\'), ('N', '\u0085'), ('_', '\u00A0'), ('L', '\u2028'), ('P', '\u2029')]

/-- How many digits follow a backslash and a letter. -/
def escapeLength? (c : Char) : Option Nat :=
  if c == 'x' then some 2 else if c == 'u' then some 4 else if c == 'U' then some 8 else none

/-- Reads an escape after its backslash. -/
def escape? : List Place → Option (Char × List Place)
  | [] => none
  | p :: rest =>
    match escapeLength? p.char with
    | some n =>
      if rest.length < n then none else (charOfHex? (rest.take n)).map fun c => (c, rest.drop n)
    | none => (escapes.lookup p.char).map fun c => (c, rest)

/-- How a quoted scalar goes on. -/
inductive QuotedPiece where
  /-- the closing quote, with what follows it -/
  | closed (text : List Char) (rest : List Place)
  /-- blanks; `joined` says whether the line break among them was escaped, and is passed over -/
  | blank (text : List Char) (joined : Bool) (rest : List Place)

/-- Reads a piece of a quoted scalar; `text` holds the text before, last first. -/
def quotedPiece? (quote : Char) (fuel : Nat) (text : List Char) (input : List Place) :
    Option QuotedPiece :=
  match fuel, input with
  | 0, _ => none
  | _, [] => none
  | fuel + 1, p :: rest =>
    if blankNext [p] then some (.blank text false (p :: rest))
    else if p.char == quote then
      if quote == '\'' && next quote rest then quotedPiece? quote fuel (quote :: text) (rest.drop 1)
      else some (.closed text rest)
    else if p.char == '\\' && quote != '\'' then
      if rest.head?.any (isBreak ·.char) then some (.blank text true (rest.drop 1))
      else do
        let (c, rest) ← escape? rest
        quotedPiece? quote fuel (c :: text) rest
    else quotedPiece? quote fuel (p.char :: text) rest

/-- Reads the rest of a quoted scalar; `text` holds the text before, last first. -/
def quotedFrom? (quote : Char) (fuel : Nat) (text : List Char) (input : List Place) :
    Option (List Char × List Place) :=
  match fuel with
  | 0 => none
  | fuel + 1 =>
    if markerNext input then none
    else do
      match ← quotedPiece? quote (input.length + 1) text input with
      | .closed text rest => some (text, rest)
      | .blank text false rest =>
        let (gap, rest) ← Gap.read? (-1) ⟨[], []⟩ rest
        quotedFrom? quote fuel (gap.text.reverse ++ text) rest
      | .blank text true rest =>
        let (gap, rest) ← Gap.read? (-1) ⟨[], []⟩ rest
        quotedFrom? quote fuel (gap.breaks ++ text) rest

/-- Reads a quoted scalar after its opening quote. -/
def quoted? (quote : Char) (input : List Place) : Option (Scalar × List Place) := do
  let (text, rest) ← quotedFrom? quote (input.length + 1) [] input
  return (⟨false, text.reverse⟩, rest)

/-! ## Block scalars -/

/-- What becomes of the line breaks at the end of a block scalar. -/
inductive Chomping where
  | strip
  | clip
  | keep
  deriving DecidableEq

/-- What the first line of a block scalar says. -/
structure BlockHeader where
  chomping : Chomping
  /-- how far the lines are indented, if that is said -/
  indent : Option Nat

/-- Reads what follows the mark of a block scalar. -/
def BlockHeader.read? (h : BlockHeader) (fuel : Nat) (input : List Place) :
    Option (BlockHeader × List Place) :=
  match fuel, input with
  | fuel + 1, p :: rest =>
    if p.char == '+' && h.chomping == .clip then read? { h with chomping := .keep } fuel rest
    else if p.char == '-' && h.chomping == .clip then read? { h with chomping := .strip } fuel rest
    else if p.char.isDigit && h.indent.isNone then
      if p.char == '0' then none
      else read? { h with indent := some (p.char.toNat - '0'.toNat) } fuel rest
    else some (h, input)
  | _, _ => some (h, input)

/-- Passes over the blanks and the comment at the end of a line. -/
def endOfLine? (input : List Place) : Option (List Place) :=
  let rest := input.dropWhile (isBlank ·.char)
  let rest := if next '#' rest then rest.dropWhile (!isBreak ·.char) else rest
  match rest with
  | [] => some []
  | p :: after => if isBreak p.char then some after else none

/-- Reads the empty lines that follow. They may be indented up to the column `indent`, or as far as
they like if it is not known. Gives the line breaks, last first, and the greatest column reached. -/
def emptyLines? (indent : Option Nat) (breaks : List Char) (reached : Nat) :
    List Place → Option (List Char × Nat × List Place)
  | [] => some (breaks, reached, [])
  | p :: rest =>
    let free := indent.all (p.column < ·)
    if free && p.char == ' ' then emptyLines? indent breaks reached rest
    else if free && p.char == '\t' then none
    else
      let reached := max reached p.column
      if isBreak p.char then emptyLines? indent (p.char :: breaks) reached rest
      else some (breaks, reached, p :: rest)

/-- A block scalar as far as it has been read. -/
structure BlockText where
  /-- the text, last first -/
  text : List Char
  /-- the line break at the end of the last line -/
  lineBreak : List Char
  /-- those of the empty lines after it, last first -/
  emptyBreaks : List Char
  /-- whether the last line begins with a blank -/
  indented : Bool

/-- Reads the lines of a block scalar that are indented to the column. -/
def BlockText.read? (folded : Bool) (indent fuel : Nat) (b : BlockText) (input : List Place) :
    Option (BlockText × List Place) :=
  match fuel, input with
  | fuel + 1, p :: _ =>
    if p.column != indent then some (b, input)
    else do
      let indented := isBlank p.char
      let joins := folded && b.lineBreak == ['\n'] && !b.indented && !indented
      let between := if joins then (if b.emptyBreaks.isEmpty then [' '] else []) else b.lineBreak
      let line := (input.takeWhile (!isBreak ·.char)).map (·.char)
      let rest := input.dropWhile (!isBreak ·.char)
      let (breaks, _, after) ← emptyLines? (some indent) [] 0 (rest.drop 1)
      read? folded indent fuel
        ⟨line.reverse ++ b.emptyBreaks ++ between ++ b.text, (rest.take 1).map (·.char), breaks,
          indented⟩ after
  | _, _ => some (b, input)

/-- Reads a block scalar after its mark, inside a block that is indented to the column `parent`. -/
def block? (folded : Bool) (parent : Int) (input : List Place) : Option (Scalar × List Place) := do
  let (header, rest) ← BlockHeader.read? ⟨.clip, none⟩ 2 input
  let rest ← endOfLine? rest
  let known := header.indent.map fun n => (max parent 0).toNat + n
  let (breaks, reached, rest) ← emptyLines? known [] 0 rest
  let indent := known.getD (max reached (max (parent + 1).toNat 1))
  let (b, rest) ← BlockText.read? folded indent (rest.length + 1) ⟨[], [], breaks, false⟩ rest
  let tail := match header.chomping with
    | .strip => []
    | .clip => b.lineBreak
    | .keep => b.emptyBreaks ++ b.lineBreak
  return (⟨false, (tail ++ b.text).reverse⟩, rest)

end EventIntake.Yaml
