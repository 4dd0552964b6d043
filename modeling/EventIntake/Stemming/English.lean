import EventIntake.Stemming.Ending

/-!
# English

The letter `y` counts as a consonant at the beginning of a word and after a vowel; it is written as
`Y` there while endings are taken off.
-/

namespace EventIntake.Stemming.English

/-- The vowels. -/
def isVowel : Char → Bool
  | 'a' | 'e' | 'i' | 'o' | 'u' | 'y' => true
  | _ => false

/-- The letters before which the ending `li` is taken off. -/
def takesLi : Char → Bool
  | 'c' | 'd' | 'e' | 'g' | 'h' | 'k' | 'm' | 'n' | 'r' | 't' => true
  | _ => false

/-- Writes the consonant `y` as `Y`; `afterVowel` says whether a vowel comes before. -/
def markY (afterVowel : Bool) : List Char → List Char
  | [] => []
  | 'y' :: cs => if afterVowel then 'Y' :: markY false cs else 'y' :: markY true cs
  | c :: cs => c :: markY (isVowel c) cs

/-- Writes the consonant `y` as `Y` in a whole word, without an apostrophe in front. -/
def mark : List Char → List Char
  | 'y' :: cs => 'Y' :: markY false cs
  | '\x27' :: 'y' :: cs => 'Y' :: markY false cs
  | '\x27' :: cs => markY false cs
  | cs => markY false cs

/-- The regions of a word. Three beginnings are longer than their first syllable. -/
def regions (cs : List Char) : Regions :=
  let start := ["gener", "commun", "arsen"].find? fun b => b.toList.isPrefixOf cs
  match start with
  | some b =>
    let n := b.length
    ⟨cs.length, n, before cs (goPastSyllable isVowel (cs.drop n))⟩
  | none =>
    let (r1, r2) := syllableRegions isVowel cs
    ⟨cs.length, r1, r2⟩

/-- Whether the word ends in a short syllable. -/
def endsShort : Spelling → Bool
  | [c, b] => !isVowel c && isVowel b
  | c :: b :: a :: _ =>
    !isVowel c && c != 'w' && c != 'x' && c != 'Y' && isVowel b && !isVowel a
  | _ => false

/-- Whether a vowel is among the letters. -/
def hasVowel (w : Spelling) : Bool :=
  w.any isVowel

/-! ## The steps -/

/-- The genitive. -/
def genitive : Endings := endings [("' 's 's'", drop)]

/-- The plural. -/
def plural : Endings := endings [
  ("sses", put "ss"),
  ("ied ies", fun _ w => if 2 ≤ w.length then some ('i' :: w) else some ('e' :: 'i' :: w)),
  ("s", fun _ w => if hasVowel w.tail then some w else none),
  ("us ss", refuse)]

/-- What is left after a participle gets an `e` back, loses one of two equal consonants, or stays. -/
def mendParticiple (g : Regions) (w : Spelling) : Spelling :=
  match w with
  | 't' :: 'a' :: _ => 'e' :: w
  | 'l' :: 'b' :: _ => 'e' :: w
  | 'z' :: 'i' :: _ => 'e' :: w
  | a :: b :: rest =>
    if a == b && among ['b', 'd', 'f', 'g', 'm', 'n', 'p', 'r', 't'] a then b :: rest
    else if w.length == g.r1 && endsShort w then 'e' :: w
    else w
  | _ => w

/-- The participles. -/
def participle : Endings := endings [
  ("eed eedly", (put "ee").inR1),
  ("ed edly ing ingly", fun g w => if hasVowel w then some (mendParticiple g w) else none)]

/-- A final `y` after a consonant that is not the first letter. -/
def finalY : Spelling → Spelling
  | c :: b :: a :: rest =>
    if (c == 'y' || c == 'Y') && !isVowel b then 'i' :: b :: a :: rest else c :: b :: a :: rest
  | w => w

/-- Double endings. -/
def step2 : Endings := endings [
  ("tional", (put "tion").inR1),
  ("enci", (put "ence").inR1),
  ("anci", (put "ance").inR1),
  ("abli", (put "able").inR1),
  ("entli", (put "ent").inR1),
  ("izer ization", (put "ize").inR1),
  ("ational ation ator", (put "ate").inR1),
  ("alism aliti alli", (put "al").inR1),
  ("fulness fulli", (put "ful").inR1),
  ("ousli ousness", (put "ous").inR1),
  ("iveness iviti", (put "ive").inR1),
  ("biliti bli", (put "ble").inR1),
  ("ogi", ((put "og").after (· == 'l')).inR1),
  ("lessli", (put "less").inR1),
  ("li", (drop.after takesLi).inR1)]

/-- Further endings. -/
def step3 : Endings := endings [
  ("tional", (put "tion").inR1),
  ("ational", (put "ate").inR1),
  ("alize", (put "al").inR1),
  ("icate iciti ical", (put "ic").inR1),
  ("ful ness", drop.inR1),
  ("ative", drop.inR2.inR1)]

/-- The last endings. -/
def step4 : Endings := endings [
  ("al ance ence er ic able ible ant ement ment ent ism ate iti ous ive ize", drop.inR2),
  ("ion", (drop.after fun c => c == 's' || c == 't').inR2)]

/-- A final `e` or double `l`. -/
def step5 : Endings := endings [
  ("e", fun g w =>
    if g.r2 ≤ w.length || (g.r1 ≤ w.length && !endsShort w) then some w else none),
  ("l", (drop.after (· == 'l')).inR2)]

/-- Words with a stem of their own. -/
def irregular : List (String × String) := [
  ("skis", "ski"), ("skies", "sky"), ("dying", "die"), ("lying", "lie"), ("tying", "tie"),
  ("idly", "idl"), ("gently", "gentl"), ("ugly", "ugli"), ("early", "earli"), ("only", "onli"),
  ("singly", "singl"), ("sky", "sky"), ("news", "news"), ("howe", "howe"), ("atlas", "atlas"),
  ("cosmos", "cosmos"), ("bias", "bias"), ("andes", "andes")]

/-- Words that keep their ending once the plural is off. -/
def invariant : List (List Char) :=
  ["inning", "outing", "canning", "herring", "earring", "proceed", "exceed", "succeed"].map spell

/-- The steps after the plural. -/
def afterPlural (g : Regions) (w : Spelling) : Spelling :=
  let w := finalY (participle.apply.run g w)
  step5.apply.run g (step4.apply.run g (step3.apply.run g (step2.apply.run g w)))

/-- The stem of a word. Words of one or two letters are their own stem. -/
def stem (word : String) : String :=
  match irregular.find? (·.1 == word) with
  | some (_, s) => s
  | none =>
    if word.length < 3 then word
    else
      let cs := mark word.toList
      let g := regions cs
      let w := plural.apply.run g (genitive.apply.run g cs.reverse)
      let w := if invariant.contains w then w else afterPlural g w
      String.ofList (w.reverse.map fun c => if c == 'Y' then 'y' else c)

end EventIntake.Stemming.English
