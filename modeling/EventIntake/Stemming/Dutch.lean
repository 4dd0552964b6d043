import EventIntake.Stemming.Ending

/-!
# Dutch

Accents are left out except on `è`. The letter `y` at the beginning and after a vowel, and `i` between
vowels, count as consonants; they are written as capitals while endings are taken off. The first
region begins after three bytes at the earliest.
-/

namespace EventIntake.Stemming.Dutch

/-- The vowels. -/
def isVowel : Char → Bool :=
  among ['a', 'e', 'i', 'o', 'u', 'y', 'è']

/-- A letter without its accent. -/
def plain : Char → Char
  | 'ä' | 'á' => 'a'
  | 'ë' | 'é' => 'e'
  | 'ï' | 'í' => 'i'
  | 'ö' | 'ó' => 'o'
  | 'ü' | 'ú' => 'u'
  | c => c

/-- Writes `y` after a vowel and `i` between vowels as capitals. -/
def markInner : List Char → List Char
  | c :: x :: d :: cs =>
    if isVowel c && x == 'i' && isVowel d then c :: 'I' :: markInner (d :: cs)
    else if isVowel c && x == 'y' then c :: 'Y' :: markInner (d :: cs)
    else c :: markInner (x :: d :: cs)
  | [c, 'y'] => if isVowel c then [c, 'Y'] else [c, 'y']
  | cs => cs

/-- Writes the consonants `y` and `i` as capitals in a whole word. -/
def mark : List Char → List Char
  | 'y' :: cs => markInner ('Y' :: cs)
  | cs => markInner cs

/-- The bytes of some letters. -/
def bytes (cs : List Char) : Nat :=
  cs.foldr (fun c n => c.utf8Size + n) 0

/-- The regions of a word. The first is given in bytes. -/
def regions (cs : List Char) : Regions :=
  let (r1, r2) := syllableRegions isVowel cs
  ⟨cs.length, max 3 (bytes (cs.take r1)), r2⟩

/-- The rule, if its ending stands in the first region. -/
def inFirst (rule : Rule) : Rule :=
  fun g w => if g.r1 ≤ bytes w then rule g w else none

/-- Of two equal letters `k`, `d` or `t` at the end, one. -/
def undouble : Spelling → Spelling
  | 'k' :: 'k' :: w => 'k' :: w
  | 'd' :: 'd' :: w => 'd' :: w
  | 't' :: 't' :: w => 't' :: w
  | w => w

/-- Takes off a final `e` after a consonant. -/
def finalE : Rule := ending "e" <| inFirst fun _ w =>
  if w.head?.any (!isVowel ·) then some (undouble w) else none

/-- The rule of the ending `en`, which stays after `gem`. -/
def dropEn : Rule := inFirst <| Rule.notAfter (fun _ w =>
  if w.head?.any (!isVowel ·) then some (undouble w) else none) "gem"

/-- The plural. -/
def plural : Endings := endings [
  ("heden", inFirst (put "heid")),
  ("en ene", dropEn),
  ("s se", inFirst (drop.after fun c => !isVowel c && c != 'j'))]

/-- The ending `heid`, and `en` before it. -/
def quality : Rule :=
  ending "heid" (((drop.thenTry (ending "en" dropEn)).notAfter "c").inR2)

/-- The endings of word formation; `eFound` says whether a final `e` was taken off before. -/
def formation (eFound : Bool) : Endings := endings [
  ("end ing", Rule.inR2 fun g w =>
    some ((ending "ig" (drop.inR2.notAfter "e") g w).getD (undouble w))),
  ("ig", (drop.notAfter "e").inR2),
  ("lijk", (drop.thenTry finalE).inR2),
  ("baar", drop.inR2),
  ("bar", if eFound then drop.inR2 else refuse)]

/-- Of a doubled vowel before the last consonant, one. -/
def shortenVowel : Spelling → Spelling
  | c :: a :: b :: d :: w =>
    if !isVowel c && c != 'I' && a == b && among ['a', 'e', 'o', 'u'] a && !isVowel d then
      c :: a :: d :: w
    else c :: a :: b :: d :: w
  | w => w

/-- The table of word formation after a final `e`. -/
def formationAfterE : Endings := formation true

/-- The table of word formation without a final `e`. -/
def formationElse : Endings := formation false

/-- The stem of a word. -/
def stem (word : String) : String :=
  let cs := mark (word.toList.map plain)
  let g := regions cs
  let w := plural.apply.run g cs.reverse
  let short := finalE g w
  let w := quality.run g (short.getD w)
  let w := (if short.isSome then formationAfterE else formationElse).apply.run g w
  String.ofList ((shortenVowel w).reverse.map fun c =>
    if c == 'Y' then 'y' else if c == 'I' then 'i' else c)

end EventIntake.Stemming.Dutch
