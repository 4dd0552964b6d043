import EventIntake.Stemming.Ending

/-!
# French

The letters `u`, `i` and `y` count as consonants where they sound like ones; they are written as
capitals while endings are taken off. Only if no ending of a noun or verb applies, the last letters are
looked at. Adverbs in `amment` and `emment` first get the ending of a participle.
-/

namespace EventIntake.Stemming.French

/-- The vowels. -/
def isVowel : Char → Bool :=
  among ['a', 'e', 'i', 'o', 'u', 'y', 'â', 'à', 'ë', 'é', 'ê', 'è', 'ï', 'î', 'ô', 'û', 'ù']

/-- Writes the consonants `u`, `i` and `y` as capitals: `u` and `i` between vowels, `y` beside a vowel,
and `u` after `q`. -/
def mark : List Char → List Char
  | c :: x :: d :: cs =>
    if isVowel c && (x == 'u' || x == 'i') && isVowel d then c :: x.toUpper :: mark (d :: cs)
    else if isVowel c && x == 'y' then c :: 'Y' :: mark (d :: cs)
    else if c == 'y' && isVowel x then 'Y' :: mark (x :: d :: cs)
    else if c == 'q' && x == 'u' then 'q' :: 'U' :: mark (d :: cs)
    else c :: mark (x :: d :: cs)
  | [c, x] =>
    if isVowel c && x == 'y' then [c, 'Y']
    else if c == 'y' && isVowel x then ['Y', x]
    else if c == 'q' && x == 'u' then ['q', 'U']
    else [c, x]
  | cs => cs

/-- Where verb endings may stand: after the third letter in a word that begins with two vowels, and
after three beginnings, else after the first vowel that is not the first letter. -/
def verbRegion (cs : List Char) : Nat :=
  match cs with
  | a :: b :: c :: _ =>
    if isVowel a && isVowel b then 3
    else if ["par", "col", "tap"].any fun s => s.toList == [a, b, c] then 3
    else before cs (goPast isVowel cs.tail)
  | _ => before cs (goPast isVowel cs.tail)

/-- The regions of a word. -/
def regions (cs : List Char) : Regions :=
  let (r1, r2) := syllableRegions isVowel cs
  ⟨verbRegion cs, r1, r2⟩

/-! ## The endings of nouns and adverbs -/

/-- `ic` before the ending is taken off in the second region and changed elsewhere. -/
def tryIc : Rule := ending "ic" (drop.inR2.orElse (put "iqU"))

/-- What may stand before an adverb's ending. -/
def beforeAdverb : Endings := endings [
  ("iv", (drop.thenTry (ending "at" drop.inR2)).inR2),
  ("eus", drop.inR2.orElse (put "eux").inR1),
  ("abl iqU", drop.inR2),
  ("ièr Ièr", (put "i").inRV)]

/-- What may stand before the ending of a quality. -/
def beforeQuality : Endings := endings [
  ("abil", drop.inR2.orElse (put "abl")),
  ("ic", drop.inR2.orElse (put "iqU")),
  ("iv", drop.inR2)]

/-- The endings of nouns, adjectives and adverbs. -/
def nominal : Endings := endings [
  ("ance iqUe isme able iste eux ances iqUes ismes ables istes", drop.inR2),
  ("atrice ateur ation atrices ateurs ations", (drop.thenTry tryIc).inR2),
  ("logie logies", (put "log").inR2),
  ("usion ution usions utions", (put "u").inR2),
  ("ence ences", (put "ent").inR2),
  ("ement ements", (drop.thenTry beforeAdverb.apply).inRV),
  ("ité ités", (drop.thenTry beforeQuality.apply).inR2),
  ("if ive ifs ives",
    (drop.thenTry (ending "at" ((drop.thenTry tryIc).inR2))).inR2),
  ("eaux", put "eau"),
  ("aux", (put "al").inR1),
  ("euse euses", drop.inR2.orElse (put "eux").inR1),
  ("issement issements", (drop.after (!isVowel ·)).inR1),
  ("amment emment ment ments", refuse)]

/-- The adverbs that are looked at as verb forms afterwards: the word as it is then. -/
def adverbAsVerb : Endings := endings [
  ("amment", (put "ant").inRV),
  ("emment", (put "ent").inRV),
  ("ment ments", drop.afterInRV isVowel),
  ("ement ements issement issements", refuse)]

/-! ## The endings of verbs -/

/-- The endings of verbs of the second group. -/
def verbI : Endings := endings [
  ("îmes ît îtes i ie ies ir ira irai iraIent irais irait iras irent irez iriez irions irons " ++
    "iront is issaIent issais issait issant issante issantes issants isse issent isses issez " ++
    "issiez issions issons it", drop.afterInRV (!isVowel ·))]

/-- An `e` before a verb ending, in the verb region. -/
def tryE : Rule := fun g w => if g.rv < w.length then ending "e" drop g w else none

/-- The endings of the other verbs. -/
def verb : Endings := endings [
  ("ions", drop.inR2),
  ("é ée ées és èrent er era erai eraIent erais erait eras erez eriez erions erons eront ez iez",
    drop),
  ("âmes ât âtes a ai aIent ais ait ant ante antes ants as asse assent asses assiez assions",
    drop.thenTry tryE)]

/-! ## The last letters -/

/-- Whether a final `s` stays after the letter. -/
def keepsS : Char → Bool :=
  among ['a', 'i', 'o', 'u', 'è', 's']

/-- The last letters of a word without another ending. -/
def residual : Endings := endings [
  ("ion", (Rule.inR2 fun g w =>
    if g.rv < w.length && w.head?.any (fun c => c == 's' || c == 't') then some w else none)),
  ("ier ière Ier Ière", put "i"),
  ("e", drop),
  ("ë", fun g w => if g.rv + 2 ≤ w.length then drop.afterText "gu" g w else none)]

/-- Takes off a final `s` and then the last letters. -/
def dropResidual (g : Regions) (w : Spelling) : Spelling :=
  let w := (ending "s" (drop.after (!keepsS ·))).run g w
  residual.inRV.run g w

/-- Of a doubled consonant, one. -/
def undouble (w : Spelling) : Spelling :=
  if ["enn", "onn", "ett", "ell", "eill"].any fun s => (spell s).isPrefixOf w then w.tail else w

/-- Writes `é` and `è` before final consonants as `e`. -/
def unaccent (w : Spelling) : Spelling :=
  let consonants := w.takeWhile (!isVowel ·)
  match w.dropWhile (!isVowel ·) with
  | c :: rest =>
    if !consonants.isEmpty && (c == 'é' || c == 'è') then consonants ++ 'e' :: rest else w
  | [] => w

/-- A final `Y` or `ç`. -/
def tidy : Endings := endings [("Y", put "i"), ("ç", put "c")]

/-- The word without its ending, if it has one of a noun or verb. -/
def dropEnding (g : Regions) (w : Spelling) : Spelling :=
  match nominal.apply g w with
  | some w => tidy.apply.run g w
  | none =>
    let w := adverbAsVerb.apply.run g w
    match verbI.inRV g w <|> verb.inRV g w with
    | some w => tidy.apply.run g w
    | none => dropResidual g w

/-- The stem of a word. -/
def stem (word : String) : String :=
  let cs := mark word.toList
  let g := regions cs
  let w := unaccent (undouble (dropEnding g cs.reverse))
  String.ofList (w.reverse.map fun c => if among ['I', 'U', 'Y'] c then c.toLower else c)

end EventIntake.Stemming.French
