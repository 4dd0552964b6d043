import EventIntake.Text.Composed
import EventIntake.Url.DomainClasses
import EventIntake.Url.DomainMapping
import EventIntake.Url.Punycode

/-!
# Domain names

The ASCII form of an internationalized domain name, under which it is looked up. Its characters are
mapped and composed, and every label between dots that is not ASCII becomes `xn--` and its Punycode.
A label that is already written so has to stand for what it would be written for.
-/

namespace EventIntake.Url

open EventIntake.Text (CharSet combiningClass composed)

/-! ## Characters -/

/-- Whether an ASCII character must not occur in a domain name. -/
def isForbidden (c : Char) : Bool :=
  c ≤ ' ' || c == '\x7f' || "%#/:<>?@[\\]^\x60\x7b|\x7d".contains c

/-- What a character of a domain name stands for. -/
def mapChar (c : Char) : Option (List Char) :=
  if disallowed.contains c then none
  else if ignored.contains c then some []
  else match mapped.get? c.toNat with
    | some codes => some (codes.map Char.ofNat)
    | none => some [c]

/-- The characters of a name that stand for themselves, in composed form. -/
def mapChars (cs : List Char) : Option (List Char) :=
  composed <$> (List.flatten <$> cs.mapM mapChar)

/-! ## Joiners -/

/-- The mark that keeps two letters from joining. -/
def nonJoiner : Char := '\u200C'

/-- The mark that joins two letters. -/
def joiner : Char := '\u200D'

/-- Whether a letter of a set comes first, looked for through what joining looks through. -/
def meets (set : CharSet) (cs : List Char) : Bool :=
  (cs.dropWhile joinThrough.contains).head?.any set.contains

/-- Whether a joiner may stand between these characters, of which those before it come last first: it
follows a character that asks to be joined, or it keeps two letters apart that would join. -/
def joinerFits (c : Char) (before after : List Char) : Bool :=
  before.head?.any (combiningClass ·.toNat == 9) ||
    c == nonJoiner && meets joinNext before && meets joinPrevious after

/-- Whether all joiners of a label are in place; the characters before come last first. -/
def joinersFit (before : List Char) : List Char → Bool
  | [] => true
  | c :: after =>
    if c == joiner || c == nonJoiner then joinerFits c before after && joinersFit (c :: before) after
    else joinersFit (c :: before) after

/-! ## Directions -/

/-- Whether a character makes a name one that is written in both directions. -/
def isRightToLeft (c : Char) : Bool :=
  rightToLeft.contains c || arabicNumbers.contains c

/-- Whether a character belongs to a label that is written from left to right. -/
def isLeftToRight (c : Char) : Bool :=
  !(isRightToLeft c || europeanNumbers.contains c || neutral.contains c || nonspacing.contains c)

/-- Whether a label has one direction: it begins with a letter, ends with a letter or digit and any
marks, and has no letters of the other direction, nor digits of both kinds. -/
def hasDirection (label : List Char) : Bool :=
  match label, label.reverse.dropWhile nonspacing.contains with
  | first :: _, last :: _ =>
    if rightToLeft.contains first then
      (isRightToLeft last || europeanNumbers.contains last) && !label.any isLeftToRight &&
        !(label.any arabicNumbers.contains && label.any europeanNumbers.contains)
    else
      isLeftToRight first && (isLeftToRight last || europeanNumbers.contains last) &&
        !label.any isRightToLeft
  | [], _ => true
  | _ :: _, [] => false

/-! ## Labels -/

/-- A label of a domain name. -/
structure Label where
  /-- the characters it stands for -/
  chars : List Char
  /-- its ASCII form -/
  ascii : List Char

/-- Whether all characters are ASCII. -/
def isAscii (cs : List Char) : Bool :=
  cs.all (·.toNat < 0x80)

/-- What the ASCII form of a label that is not ASCII begins with. -/
def encodedMark : List Char := ['x', 'n', '-', '-']

/-- Whether the characters may make up a label that is not ASCII. -/
def isLabel (cs : List Char) : Bool :=
  !cs.head?.any marks.contains && joinersFit [] cs && !cs.any isForbidden

/-- The label that is written with these characters, which are mapped and composed. -/
def Label.ofChars? (cs : List Char) : Option Label :=
  if encodedMark.isPrefixOf cs then do
    let chars ← Punycode.decode? (cs.drop encodedMark.length)
    if isAscii cs && !isAscii chars && mapChars chars == some chars && isLabel chars then
      return ⟨chars, cs⟩
    else none
  else if isAscii cs then
    if cs.any isForbidden then none else some ⟨cs, cs⟩
  else if isLabel cs then do return ⟨cs, encodedMark ++ (← Punycode.encode? cs)⟩
  else none

/-- The ASCII form of a domain name. -/
def domainToAscii? (cs : List Char) : Option (List Char) := do
  let labels ← ((← mapChars cs).splitOn '.').mapM Label.ofChars?
  if labels.any (·.chars.any isRightToLeft) && !labels.all (hasDirection ·.chars) then none
  else some (['.'].intercalate (labels.map (·.ascii)))

end EventIntake.Url
