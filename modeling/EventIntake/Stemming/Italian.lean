import EventIntake.Stemming.Ending

/-!
# Italian

Acute accents are written as grave ones. The letters `u` and `i` between vowels, and `u` after `q`,
count as consonants; they are written as capitals while endings are taken off.
-/

namespace EventIntake.Stemming.Italian

/-- The vowels. -/
def isVowel : Char → Bool :=
  among ['a', 'e', 'i', 'o', 'u', 'à', 'è', 'ì', 'ò', 'ù']

/-- A letter with a grave accent for an acute one. -/
def grave : Char → Char
  | 'á' => 'à'
  | 'é' => 'è'
  | 'í' => 'ì'
  | 'ó' => 'ò'
  | 'ú' => 'ù'
  | c => c

/-- Writes `u` after `q` as a capital. -/
def markQu : List Char → List Char
  | 'q' :: 'u' :: cs => 'q' :: 'U' :: markQu cs
  | c :: cs => c :: markQu cs
  | [] => []

/-- Writes `u` and `i` between vowels as capitals. -/
def markInner : List Char → List Char
  | c :: x :: d :: cs =>
    if isVowel c && (x == 'u' || x == 'i') && isVowel d then c :: x.toUpper :: markInner (d :: cs)
    else c :: markInner (x :: d :: cs)
  | cs => cs

/-- The regions of a word. -/
def regions (cs : List Char) : Regions :=
  let (r1, r2) := syllableRegions isVowel cs
  ⟨romanceVerbRegion isVowel cs, r1, r2⟩

/-- What may stand before a pronoun that is written together with a verb. The pronoun is taken off
after a gerund, and becomes `e` after an infinitive. -/
def beforePronoun : Endings := endings [
  ("ando", fun g w => if g.rv ≤ w.length then some (spell "ando" ++ w) else none),
  ("endo", fun g w => if g.rv ≤ w.length then some (spell "endo" ++ w) else none),
  ("ar", fun g w => if g.rv ≤ w.length then some (spell "are" ++ w) else none),
  ("er", fun g w => if g.rv ≤ w.length then some (spell "ere" ++ w) else none),
  ("ir", fun g w => if g.rv ≤ w.length then some (spell "ire" ++ w) else none)]

/-- The pronouns. -/
def pronoun : Endings := endings [
  ("ci gli la le li lo mi ne si ti vi sene gliela gliele glieli glielo gliene mela mele meli melo " ++
    "mene tela tele teli telo tene cela cele celi celo cene vela vele veli velo vene",
    beforePronoun.apply)]

/-- What may stand before the ending of an adverb. -/
def beforeAdverb : Endings := endings [
  ("iv", (drop.thenTry (ending "at" drop.inR2)).inR2),
  ("os ic abil", drop.inR2)]

/-- The endings of nouns, adjectives and adverbs. -/
def nominal : Endings := endings [
  ("anza anze ico ici ica ice iche ichi ismo ismi abile abili ibile ibili ista iste isti istà istè " ++
    "istì oso osi osa ose mente atrice atrici ante anti", drop.inR2),
  ("azione azioni atore atori", (drop.thenTry (ending "ic" drop.inR2)).inR2),
  ("logia logie", (put "log").inR2),
  ("uzione uzioni usione usioni", (put "u").inR2),
  ("enza enze", (put "ente").inR2),
  ("amento amenti imento imenti", drop.inRV),
  ("amente", (drop.thenTry beforeAdverb.apply).inR1),
  ("ità", (drop.thenTry (endings [("abil ic iv", drop.inR2)]).apply).inR2),
  ("ivo ivi iva ive",
    (drop.thenTry (ending "at" ((drop.thenTry (ending "ic" drop.inR2)).inR2))).inR2)]

/-- The endings of verbs. -/
def verb : Endings := endings [
  ("ammo ando ano are arono asse assero assi assimo ata ate ati ato ava avamo avano avate avi avo " ++
    "emmo enda ende endi endo erà erai eranno ere erebbe erebbero erei eremmo eremo ereste eresti " ++
    "erete erò erono essero ete eva evamo evano evate evi evo Yamo iamo immo irà irai iranno ire " ++
    "irebbe irebbero irei iremmo iremo ireste iresti irete irò irono isca iscano isce isci isco " ++
    "iscono issero ita ite iti ito iva ivamo ivano ivate ivi ivo ono uta ute uti uto ar ir", drop)]

/-- A final vowel, and an `i` before it. -/
def finalVowel : Endings := endings [
  ("a e i o à è ì ò", (drop.thenTry (ending "i" drop.inRV)).inRV)]

/-- A final `h` after `c` or `g` in the verb region. -/
def finalH : Rule :=
  ending "h" (drop.afterInRV fun c => c == 'c' || c == 'g')

/-- The stem of a word. -/
def stem (word : String) : String :=
  let cs := markInner (markQu (word.toList.map grave))
  let g := regions cs
  let w := pronoun.apply.run g cs.reverse
  let w := (nominal.apply g w <|> verb.inRV g w).getD w
  let w := finalH.run g (finalVowel.apply.run g w)
  String.ofList (w.reverse.map fun c => if among ['I', 'U'] c then c.toLower else c)

end EventIntake.Stemming.Italian
