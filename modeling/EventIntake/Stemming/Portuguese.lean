import EventIntake.Stemming.Ending

/-!
# Portuguese

A vowel with a tilde counts as a vowel and a consonant, so that it is written with the tilde as a
letter of its own while endings are taken off.
-/

namespace EventIntake.Stemming.Portuguese

/-- The vowels. -/
def isVowel : Char → Bool :=
  among ['a', 'e', 'i', 'o', 'u', 'á', 'é', 'í', 'ó', 'ú', 'â', 'ê', 'ô']

/-- Writes the tilde as a letter after its vowel. -/
def splitTilde (cs : List Char) : List Char :=
  cs.flatMap fun
    | 'ã' => ['a', '~']
    | 'õ' => ['o', '~']
    | c => [c]

/-- Puts the tilde back over its vowel, of a word spelled from its last letter, whose last letters
are already collected. -/
def joinTilde : Spelling → List Char → List Char
  | '~' :: 'a' :: w, acc => joinTilde w ('ã' :: acc)
  | '~' :: 'o' :: w, acc => joinTilde w ('õ' :: acc)
  | c :: w, acc => joinTilde w (c :: acc)
  | [], acc => acc

/-- The regions of a word. -/
def regions (cs : List Char) : Regions :=
  let (r1, r2) := syllableRegions isVowel cs
  ⟨romanceVerbRegion isVowel cs, r1, r2⟩

/-- What may stand before the ending `amente`. -/
def beforeAmente : Endings := endings [
  ("iv", (drop.thenTry (ending "at" drop.inR2)).inR2),
  ("os ic ad", drop.inR2)]

/-- The endings of nouns, adjectives and adverbs. -/
def nominal : Endings := endings [
  ("eza ezas ico ica icos icas ismo ismos ável ível ista istas oso osa osos osas amento amentos " ++
    "imento imentos adora ador aça~o adoras adores aço~es ante antes ância", drop.inR2),
  ("logia logias", (put "log").inR2),
  ("uça~o uço~es", (put "u").inR2),
  ("ência ências", (put "ente").inR2),
  ("amente", (drop.thenTry beforeAmente.apply).inR1),
  ("mente", (drop.thenTry (endings [("ante avel ível", drop.inR2)]).apply).inR2),
  ("idade idades", (drop.thenTry (endings [("abil ic iv", drop.inR2)]).apply).inR2),
  ("iva ivo ivas ivos", (drop.thenTry (ending "at" drop.inR2)).inR2),
  ("ira iras", Rule.inRV ((put "ir").after (· == 'e')))]

/-- The endings of verbs. -/
def verb : Endings := endings [
  ("ada ida ia aria eria iria ará ara erá era irá ava asse esse isse aste este iste ei arei erei " ++
    "irei am iam ariam eriam iriam aram eram iram avam em arem erem irem assem essem issem ado " ++
    "ido ando endo indo ara~o era~o ira~o ar er ir as adas idas ias arias erias irias arás aras " ++
    "erás eras irás avas es ardes erdes irdes ares eres ires asses esses isses astes estes istes " ++
    "is ais eis íeis aríeis eríeis iríeis áreis areis éreis ereis íreis ireis ásseis ésseis " ++
    "ísseis áveis ados idos ámos amos íamos aríamos eríamos iríamos áramos éramos íramos ávamos " ++
    "emos aremos eremos iremos ássemos êssemos íssemos imos armos ermos irmos eu iu ou ira iras",
    drop)]

/-- Takes off an `i` after a `c`. -/
def softI : Rule := ending "i" ((drop.afterText "c").inRV)

/-- The last letter of what has no other ending. -/
def residual : Endings := endings [("os a i o á í ó", drop.inRV)]

/-- The last `e`, and the letter that only softens or hardens the one before it; or the cedilla. -/
def residualForm : Endings := endings [
  ("e é ê",
    (drop.thenTry ((ending "u" ((drop.afterText "g").inRV)).orElse softI)).inRV),
  ("ç", put "c")]

/-- The stem of a word. -/
def stem (word : String) : String :=
  let cs := splitTilde word.toList
  let g := regions cs
  let w := cs.reverse
  let w :=
    match nominal.apply g w <|> verb.inRV g w with
    | some w => softI.run g w
    | none => residual.apply.run g w
  String.ofList (joinTilde (residualForm.apply.run g w) [])

end EventIntake.Stemming.Portuguese
