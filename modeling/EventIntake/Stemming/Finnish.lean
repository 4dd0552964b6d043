import EventIntake.Stemming.Ending

/-!
# Finnish

Endings follow each other in a fixed order: particles, possessives, cases, comparatives, plurals. What
is left is tidied up.
-/

namespace EventIntake.Stemming.Finnish

/-- The vowels. -/
def isVowel : Char → Bool :=
  among ['a', 'e', 'i', 'o', 'u', 'y', 'ä', 'ö']

/-- The vowels that may stand before the `i` of a plural. -/
def isBroad (c : Char) : Bool :=
  isVowel c && c != 'y'

/-- The regions of a word. -/
def regions (cs : List Char) : Regions :=
  let (r1, r2) := syllableRegions isVowel cs
  ⟨r1, r1, r2⟩

/-- Whether a spelling begins with a long vowel. -/
def isLong : Spelling → Bool
  | a :: b :: _ => a == b && isBroad a
  | _ => false

/-- Particles that are written together with a word, and the ending of adverbs. -/
def particle : Endings := endings [
  ("kin kaan kään ko kö han hän pa pä", drop.after fun c => isVowel c || c == 'n' || c == 't'),
  ("sti", drop.inR2)]

/-- The endings that tell the owner. -/
def possessive : Endings := endings [
  ("si", drop.notAfter "k"),
  ("ni", drop.thenTry (ending "kse" (put "ksi"))),
  ("nsa nsä mme nne", drop),
  ("an", drop.afterAny "ta ssa sta lla lta na"),
  ("än", drop.afterAny "tä ssä stä llä ltä nä"),
  ("en", drop.afterAny "lle ine")]

/-- Takes off the `n` of a case, and before it the second letter of a long vowel or of `ie`. -/
def dropN : Rule := fun _ w =>
  match w with
  | a :: rest => if isLong w || (a == 'e' && rest.head? == some 'i') then some rest else some w
  | [] => some []

/-- Whether an `i` with a broad vowel before it comes first in a spelling. -/
def isPluralI : Spelling → Bool
  | a :: b :: _ => a == 'i' && isBroad b
  | _ => false

/-- Whether a vowel with a consonant before it comes first in a spelling. -/
def isOpenSyllable : Spelling → Bool
  | a :: b :: _ => isVowel a && !isVowel b
  | _ => false

/-- Takes off an ending if what stands before it, in the first region, is as it should be. -/
def dropIfBefore (text : String) (p : Spelling → Bool) : Rule :=
  let letters := spell text
  fun g w =>
    let reach := w.take (w.length - g.r1)
    if letters.isPrefixOf reach && p (reach.drop letters.length) then some (w.drop letters.length)
    else none

/-- The endings of cases that depend on more than one letter before them. -/
def longCase : Rule :=
  (dropIfBefore "siin" isPluralI).orElse <| (dropIfBefore "seen" isLong).orElse <|
    (dropIfBefore "tten" isPluralI).orElse (dropIfBefore "den" isPluralI)

/-- The endings of the other cases. -/
def shortCase : Endings := endings [
  ("han", drop.after (· == 'a')),
  ("hen", drop.after (· == 'e')),
  ("hin", drop.after (· == 'i')),
  ("hon", drop.after (· == 'o')),
  ("hän", drop.after (· == 'ä')),
  ("hön", drop.after (· == 'ö')),
  ("n", dropN),
  ("a ä", fun _ w => if isOpenSyllable w then some w else none),
  ("tta ttä", drop.after (· == 'e')),
  ("ta tä ssa ssä sta stä lla llä lta ltä lle na nä ksi ine", drop)]

/-- The endings of comparatives and superlatives, and the ending of agents. -/
def comparative : Endings := endings [
  ("mpi mpa mpä mmi mma mmä", drop.notAfter "po"),
  ("impi impa impä immi imma immä eja ejä", drop)]

/-- The `i` of a plural after which a case stood. -/
def pluralI : Endings := endings [("i j", drop)]

/-- Comparatives before the `t` of a plural. -/
def pluralComparative : Endings := endings [
  ("mma", drop.notAfter "po"),
  ("imma", drop)]

/-- The `t` of a plural. -/
def pluralT : Rule := fun g w =>
  match w.take (w.length - g.r1) with
  | 't' :: a :: _ =>
    if isVowel a then some ((pluralComparative.applyFrom g.r2).run g w.tail) else none
  | _ => none

/-- Takes off the last letter if the spelling of the first region begins as it should. -/
def dropLast (p : Spelling → Bool) : Rule := fun g w =>
  if p (w.take (w.length - g.r1)) then some w.tail else none

/-- The last letters that are taken off: the second of a long vowel, a vowel after a consonant, and
an `o` or `j` of `oj`, `uj` and `jo`. -/
def lastLetters : List Rule := [
  dropLast isLong,
  dropLast fun
    | a :: b :: _ => among ['a', 'e', 'i', 'ä'] a && !isVowel b
    | _ => false,
  dropLast fun
    | a :: b :: _ => a == 'j' && (b == 'o' || b == 'u')
    | _ => false,
  dropLast fun
    | a :: b :: _ => a == 'o' && b == 'j'
    | _ => false]

/-- Writes the last consonant once. -/
def undouble (w : Spelling) : Spelling :=
  match w.dropWhile isVowel with
  | a :: b :: rest => if a == b then w.takeWhile isVowel ++ b :: rest else w
  | _ => w

/-- The stem of a word. -/
def stem (word : String) : String :=
  let cs := word.toList
  let g := regions cs
  let w := particle.inR1.run g cs.reverse
  let w := possessive.inR1.run g w
  let cased := longCase.orElse shortCase.inR1 g w
  let w := cased.getD w
  let w := (comparative.applyFrom g.r2).run g w
  let w := if cased.isSome then pluralI.inR1.run g w else pluralT.run g w
  String.ofList (undouble (lastLetters.foldl (fun w rule => rule.run g w) w)).reverse

end EventIntake.Stemming.Finnish
