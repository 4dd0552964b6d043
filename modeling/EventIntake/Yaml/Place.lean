/-!
# Places in a text

YAML gives a meaning to lines and columns, so every character is read with its place. Line breaks of
all kinds are one character here.
-/

namespace EventIntake.Yaml

/-- A character with its place in the text. -/
structure Place where
  char : Char
  line : Nat
  column : Nat
  /-- how many characters come before it -/
  index : Nat
  deriving Inhabited

/-- Whether a character may occur in a text at all. -/
def isPrintable (c : Char) : Bool :=
  c == '\t' || c == '\n' || c == '\r' || (' ' ≤ c && c ≤ '~') || c == '\u0085' ||
    ('\u00A0' ≤ c && c ≤ '\uFFFD') || 0x10000 ≤ c.toNat

/-- Whether a character ends a line. -/
def isBreak (c : Char) : Bool :=
  c == '\n' || c == '\u2028' || c == '\u2029'

/-- Whether a character is a blank within a line. -/
def isBlank (c : Char) : Bool :=
  c == ' ' || c == '\t'

/-- Whether nothing but blank follows at once: a blank, a line break or the end. -/
def blankNext : List Place → Bool
  | [] => true
  | p :: _ => isBlank p.char || isBreak p.char

/-- Whether a character comes next. -/
def next (c : Char) : List Place → Bool
  | [] => false
  | p :: _ => p.char == c

/-- The characters with the usual line breaks written as one. The text before comes last first. -/
def unifyBreaks (done : List Char) : List Char → List Char
  | '\r' :: '\n' :: rest => unifyBreaks ('\n' :: done) rest
  | c :: rest => unifyBreaks ((if c == '\r' || c == '\u0085' then '\n' else c) :: done) rest
  | [] => done.reverse

/-- Gives each character its place; those before, with their places, come last first. -/
def placesFrom (done : List Place) (line column index : Nat) : List Char → List Place
  | [] => done.reverse
  | c :: rest =>
    let done := ⟨c, line, column, index⟩ :: done
    if isBreak c then placesFrom done (line + 1) 0 (index + 1) rest
    else placesFrom done line (column + 1) (index + 1) rest

/-- The characters of a text with their places, if all may occur. A byte order mark at its beginning
is passed over. -/
def places? (cs : List Char) : Option (List Place) :=
  let cs := match cs with
    | '\uFEFF' :: rest => rest
    | _ => cs
  if cs.all isPrintable then some (placesFrom [] 0 0 0 (unifyBreaks [] cs)) else none

end EventIntake.Yaml
