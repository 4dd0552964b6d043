import EventIntake.Stemming.Ending

/-!
# Hungarian

Endings stand after the first syllable. Where an ending has lengthened the vowel before it, the
vowel is shortened again.
-/

namespace EventIntake.Stemming.Hungarian

/-- The vowels. -/
def isVowel : Char → Bool :=
  among ['a', 'e', 'i', 'o', 'u', 'á', 'é', 'í', 'ó', 'ö', 'ő', 'ú', 'ü', 'ű']

/-- The consonants that are written with several letters. -/
def digraphs : List (List Char) :=
  ["dzs", "cs", "gy", "ly", "ny", "sz", "ty", "zs"].map String.toList

/-- What follows a consonant at the start. -/
def skipConsonant (cs : List Char) : Option (List Char) :=
  match digraphs.find? (·.isPrefixOf cs) with
  | some d => some (cs.drop d.length)
  | none => cs.tail?

/-- The regions of a word: the first begins after the first consonant that follows the first vowel,
or after the first vowel if that is not the first letter. -/
def regions (cs : List Char) : Regions :=
  let rest :=
    match cs with
    | [] => none
    | c :: more =>
      if isVowel c then skipConsonant (more.dropWhile isVowel) else goPast isVowel more
  let r1 := before cs rest
  ⟨r1, r1, r1⟩

/-- The doubled consonants. -/
def doubled : List Spelling :=
  ["bb", "cc", "ccs", "dd", "ff", "gg", "ggy", "jj", "kk", "ll", "lly", "mm", "nn", "nny", "pp",
    "rr", "ss", "ssz", "tt", "tty", "vv", "zz", "zzs"].map spell

/-- Takes off an ending after a doubled consonant, which becomes a single one. -/
def undouble : Rule := fun _ w =>
  if doubled.any (·.isPrefixOf w) then
    match w with
    | c :: _ :: rest => some (c :: rest)
    | w => some w
  else none

/-- Shortens a last vowel. -/
def shortenVowel : Endings := endings [
  ("á", (put "a").inR1),
  ("é", (put "e").inR1)]

/-- The endings of the instrumental case after a consonant. -/
def instrumental : Endings := endings [("al el", undouble.inR1)]

/-- The endings of the other cases. -/
def case : Endings := endings [
  ("ban ben ba be ra re nak nek val vel tól től ról ről ból ből hoz hez höz nál nél ig at et ot öt " ++
    "ért képp képpen kor ul ül vá vé onként enként anként ként en on an ön n t",
    (drop.thenTry shortenVowel.apply).inR1)]

/-- Endings of cases that lengthen the vowel. -/
def lengtheningCase : Endings := endings [
  ("én", (put "e").inR1),
  ("án ánként", (put "a").inR1)]

/-- The endings of the sociative case. -/
def sociative : Endings := endings [
  ("astul estül stul stül", drop.inR1),
  ("ástul", (put "a").inR1),
  ("éstül", (put "e").inR1)]

/-- The endings of the factive case. -/
def factive : Endings := endings [("á é", undouble.inR1)]

/-- The endings of what is owned. -/
def owned : Endings := endings [
  ("oké öké aké eké ké éi é", drop.inR1),
  ("éké ééi éé", (put "e").inR1),
  ("áké áéi", (put "a").inR1)]

/-- The endings that tell the owner of one thing. -/
def oneOwned : Endings := endings [
  ("ünk unk nk juk jük uk ük em om am m od ed ad öd d ja je a e o", drop.inR1),
  ("ánk ájuk ám ád á", (put "a").inR1),
  ("énk éjük ém éd é", (put "e").inR1)]

/-- The endings that tell the owner of several things. -/
def manyOwned : Endings := endings [
  ("jaim jeim aim eim im jaid jeid aid eid id jai jei ai ei i jaink jeink eink aink ink jaitok " ++
    "jeitek aitok eitek itek jeik jaik aik eik ik", drop.inR1),
  ("áim áid ái áink áitok áik", (put "a").inR1),
  ("éim éid éi éink éitek éik", (put "e").inR1)]

/-- The endings of the plural. -/
def plural : Endings := endings [
  ("ák", (put "a").inR1),
  ("ék", (put "e").inR1),
  ("ök ak ok ek k", drop.inR1)]

/-- The stem of a word. -/
def stem (word : String) : String :=
  let cs := word.toList
  let g := regions cs
  let steps := [instrumental, case, lengtheningCase, sociative, factive, owned, oneOwned, manyOwned,
    plural]
  String.ofList (steps.foldl (fun w step => step.apply.run g w) cs.reverse).reverse

end EventIntake.Stemming.Hungarian
