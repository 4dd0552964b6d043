import EventIntake.Stemming.Ending

/-!
# German

`ß` is written `ss`, and in the end the umlauts lose their dots. The letters `u` and `y` between
vowels count as consonants; they are written as capitals while endings are taken off.
-/

namespace EventIntake.Stemming.German

/-- The vowels. -/
def isVowel : Char → Bool :=
  among ['a', 'e', 'i', 'o', 'u', 'y', 'ä', 'ö', 'ü']

/-- The letters before which the ending `st` is taken off. -/
def takesSt : Char → Bool :=
  among ['b', 'd', 'f', 'g', 'h', 'k', 'l', 'm', 'n', 't']

/-- The letters before which the ending `s` is taken off. -/
def takesS (c : Char) : Bool :=
  takesSt c || c == 'r'

/-- Writes `u` and `y` between vowels as capitals. -/
def mark : List Char → List Char
  | c :: x :: d :: cs =>
    if isVowel c && (x == 'u' || x == 'y') && isVowel d then c :: x.toUpper :: mark (d :: cs)
    else c :: mark (x :: d :: cs)
  | cs => cs

/-- The regions of a word. The first begins after three letters at the earliest. -/
def regions (cs : List Char) : Regions :=
  let (r1, r2) := syllableRegions isVowel cs
  if cs.length < 3 then ⟨cs.length, cs.length, cs.length⟩
  else ⟨cs.length, max 3 r1, r2⟩

/-- The endings of declension. -/
def declension : Endings := endings [
  ("em ern er", drop.inR1),
  ("e en es", (drop.thenTry (ending "niss" (put "nis"))).inR1),
  ("s", (drop.after takesS).inR1)]

/-- The endings of conjugation and comparison. -/
def conjugation : Endings := endings [
  ("en er est", drop.inR1),
  ("st", Rule.inR1 fun _ w =>
    if w.head?.any takesSt && 4 ≤ w.length then some w else none)]

/-- The endings of word formation. -/
def formation : Endings := endings [
  ("end ung", (drop.thenTry (ending "ig" (drop.inR2.notAfter "e"))).inR2),
  ("ig ik isch", (drop.notAfter "e").inR2),
  ("lich heit", (drop.thenTry (endings [("er en", drop.inR1)]).apply).inR2),
  ("keit", (drop.thenTry (endings [("lich ig", drop.inR2)]).apply).inR2)]

/-- A letter as it is written in a stem. -/
def plain : Char → Char
  | 'Y' => 'y'
  | 'U' => 'u'
  | 'ä' => 'a'
  | 'ö' => 'o'
  | 'ü' => 'u'
  | c => c

/-- The stem of a word. -/
def stem (word : String) : String :=
  let cs := mark (word.toList.flatMap fun c => if c == 'ß' then ['s', 's'] else [c])
  let g := regions cs
  let w := conjugation.apply.run g (declension.apply.run g cs.reverse)
  String.ofList ((formation.apply.run g w).reverse.map plain)

end EventIntake.Stemming.German
