import EventIntake.Stemming.Ending

/-!
# Danish, Norwegian and Swedish

The three languages are stemmed alike. Only endings after the first syllable are taken off, and never
one that begins among the first three letters. First comes the main ending, then one of two consonants
that it leaves behind, then an ending of word formation.
-/

namespace EventIntake.Stemming

/-- Where endings may stand, and nothing else. -/
def onlyR1 (n : Nat) (cs : List Char) : Regions := ⟨cs.length, n, cs.length⟩

/-- After the first syllable and the first three letters; nowhere in a shorter word. -/
def syllableAfterThree (vowel : Char → Bool) (cs : List Char) : Nat :=
  if cs.length < 3 then cs.length
  else max 3 (before cs (goPastSyllable vowel cs))

/-- Takes off the last letter if one of these pairs ends the word in the first region. -/
def shortenPair (pairs : List Spelling) (g : Regions) (w : Spelling) : Spelling :=
  let reach := w.take (w.length - g.r1)
  if pairs.any (·.isPrefixOf reach) then w.tail else w

/-! ## Danish -/

namespace Danish

/-- The vowels. -/
def isVowel : Char → Bool :=
  among ['a', 'e', 'i', 'o', 'u', 'y', 'æ', 'å', 'ø']

/-- The letters before which the ending `s` is taken off. -/
def takesS : Char → Bool :=
  among ['a', 'b', 'c', 'd', 'f', 'g', 'h', 'j', 'k', 'l', 'm', 'n', 'o', 'p', 'r', 't', 'v', 'y',
    'z', 'å']

/-- The main ending. -/
def main : Endings := endings [
  ("hed ethed ered e erede ende erende ene erne ere en heden eren er heder erer heds es endes " ++
    "erendes enes ernes eres ens hedens erens ers ets erets et eret", drop),
  ("s", drop.after takesS)]

/-- The pairs of consonants of which one is taken off. -/
def pairs : List Spelling := ["gd", "dt", "gt", "kt"].map spell

/-- The endings of word formation. -/
def formation : Endings := endings [
  ("ig lig elig els", fun g w => some (shortenPair pairs g w)),
  ("løst", put "løs")]

/-- One of two equal consonants. -/
def undouble (g : Regions) (w : Spelling) : Spelling :=
  match w with
  | a :: b :: rest => if a == b && !isVowel a && g.r1 < w.length then b :: rest else w
  | _ => w

/-- The stem of a word. -/
def stem (word : String) : String :=
  let cs := word.toList
  let g := onlyR1 (syllableAfterThree isVowel cs) cs
  let w := main.inR1.run g cs.reverse
  let w := shortenPair pairs g w
  let w := (ending "igst" (put "ig")).run g w
  String.ofList (undouble g (formation.inR1.run g w)).reverse

end Danish

/-! ## Norwegian -/

namespace Norwegian

/-- The vowels. -/
def isVowel : Char → Bool :=
  among ['a', 'e', 'i', 'o', 'u', 'y', 'æ', 'å', 'ø']

/-- The letters before which the ending `s` is taken off. -/
def takesS : Char → Bool :=
  among ['b', 'c', 'd', 'f', 'g', 'h', 'j', 'l', 'm', 'n', 'o', 'p', 'r', 't', 'v', 'y', 'z']

/-- The ending `s`; after a `k`, only if a consonant stands before that. -/
def dropS : Rule := fun _ w =>
  match w with
  | 'k' :: c :: _ => if isVowel c then none else some w
  | c :: _ => if takesS c then some w else none
  | [] => none

/-- The main ending. -/
def main : Endings := endings [
  ("a e ede ande ende ane ene hetene en heten ar er heter as es edes endes enes hetenes ens " ++
    "hetens ers ets et het ast", drop),
  ("s", dropS),
  ("erte ert", put "er")]

/-- The pairs of consonants of which one is taken off. -/
def pairs : List Spelling := ["dt", "vt"].map spell

/-- The endings of word formation. -/
def formation : Endings := endings [
  ("leg eleg ig eig lig elig els lov elov slov hetslov", drop)]

/-- The stem of a word. -/
def stem (word : String) : String :=
  let cs := word.toList
  let g := onlyR1 (syllableAfterThree isVowel cs) cs
  let w := shortenPair pairs g (main.inR1.run g cs.reverse)
  String.ofList (formation.inR1.run g w).reverse

end Norwegian

/-! ## Swedish -/

namespace Swedish

/-- The vowels. -/
def isVowel : Char → Bool :=
  among ['a', 'e', 'i', 'o', 'u', 'y', 'ä', 'å', 'ö']

/-- The letters before which the ending `s` is taken off. -/
def takesS : Char → Bool :=
  among ['b', 'c', 'd', 'f', 'g', 'h', 'j', 'k', 'l', 'm', 'n', 'o', 'p', 'r', 't', 'v', 'y']

/-- The main ending. -/
def main : Endings := endings [
  ("a arna erna heterna orna ad e ade ande arne are aste en anden aren heten ern ar er heter or " ++
    "as arnas ernas ornas es ades andes ens arens hetens erns at andet het ast", drop),
  ("s", drop.after takesS)]

/-- The pairs of consonants of which one is taken off. -/
def pairs : List Spelling := ["dd", "gd", "nn", "dt", "gt", "kt", "tt"].map spell

/-- The endings of word formation. -/
def formation : Endings := endings [
  ("lig ig els", drop),
  ("löst", put "lös"),
  ("fullt", put "full")]

/-- The stem of a word. -/
def stem (word : String) : String :=
  let cs := word.toList
  let g := onlyR1 (syllableAfterThree isVowel cs) cs
  let w := shortenPair pairs g (main.inR1.run g cs.reverse)
  String.ofList (formation.inR1.run g w).reverse

end Swedish

end EventIntake.Stemming
