import EventIntake.Stemming.Ending

/-!
# Arabic

A word begins as both a noun and a verb; one with an article is a noun only. It is written without
vowel signs and in the common forms of its letters, then endings are taken off, then prefixes, and in
the end the letters that carry a hamza are written without it. Every affix asks for a word of some
length.
-/

namespace EventIntake.Stemming.Arabic

/-! ## Letters -/

/-- The letters with forms of their own by their place in a word, in the order of these forms, each
with the number of forms. -/
def shapes : List (List Char × Nat) :=
  [("ء", 1), ("آ", 2), ("أ", 2), ("ؤ", 2), ("إ", 2), ("ئ", 4), ("ا", 2), ("ب", 4), ("ة", 2), ("ت", 4),
    ("ث", 4), ("ج", 4), ("ح", 4), ("خ", 4), ("د", 2), ("ذ", 2), ("ر", 2), ("ز", 2), ("س", 4),
    ("ش", 4), ("ص", 4), ("ض", 4), ("ط", 4), ("ظ", 4), ("ع", 4), ("غ", 4), ("ف", 4), ("ق", 4),
    ("ك", 4), ("ل", 4), ("م", 4), ("ن", 4), ("ه", 4), ("و", 2), ("ى", 2), ("ي", 4), ("لآ", 2),
    ("لأ", 2), ("لإ", 2), ("لا", 2)].map fun (s, n) => (s.toList, n)

/-- The letter of the `n`th of these forms. -/
def shapeAt : List (List Char × Nat) → Nat → Option (List Char)
  | [], _ => none
  | (letters, count) :: rest, n => if n < count then some letters else shapeAt rest (n - count)

/-- The common form of a letter: without vowel signs and lengthening, with the common digits. -/
def commonForm (c : Char) : List Char :=
  let n := c.toNat
  if 0x064b ≤ n && n ≤ 0x0652 || n == 0x0640 then []
  else if 0x0660 ≤ n && n ≤ 0x0669 then [Char.ofNat (n - 0x0660 + '0'.toNat)]
  else if 0xfe80 ≤ n then (shapeAt shapes (n - 0xfe80)).getD [c]
  else [c]

/-- A letter without its hamza. -/
def withoutHamza : Char → Char
  | 'آ' | 'أ' | 'إ' => 'ا'
  | 'ؤ' => 'و'
  | 'ئ' => 'ي'
  | c => c

/-- Writes a last letter that carries a hamza as a hamza. -/
def lastHamza : Spelling → Spelling
  | c :: w => if withoutHamza c == c then c :: w else 'ء' :: w
  | [] => []

/-! ## Affixes -/

/-- An affix of a word. -/
structure Affix where
  /-- its letters, those of an ending from the last -/
  letters : List Char
  /-- the least length of a word that loses it -/
  least : Nat
  /-- the letters that take its place -/
  instead : List Char

/-- The longest affix first. -/
def longestFirst (t : List Affix) : List Affix :=
  t.mergeSort fun a b => b.letters.length ≤ a.letters.length

/-- The endings of a table, in groups with their least lengths. -/
def suffixes (groups : List (String × Nat)) : List Affix :=
  longestFirst <| groups.flatMap fun (list, least) =>
    (list.splitOn " ").map fun s => ⟨spell s, least, []⟩

/-- The prefixes of a table, each with the least length and what takes its place. -/
def prefixes (table : List (String × Nat × String)) : List Affix :=
  longestFirst <| table.map fun (s, least, instead) => ⟨s.toList, least, instead.toList⟩

/-- The longest affix of a table that the letters have. -/
def longest? (t : List Affix) (letters : List Char) : Option Affix :=
  t.find? fun a => a.letters.isPrefixOf letters

/-- The letters without the longest affix that they have, in a word with some more letters, if the
word is long enough. -/
def replace (t : List Affix) (more : Nat) (letters : List Char) : Option (List Char) :=
  (longest? t letters).bind fun a =>
    if a.least ≤ more + letters.length then some (a.instead ++ letters.drop a.letters.length)
    else none

/-! ## Endings -/

/-- The pronouns after a verb. -/
def verbPronoun : List Affix :=
  suffixes [("ه ك", 4), ("ني نا ها هم هن كم كن", 5), ("هما كما كمو", 6)]

/-- The endings that tell the person of a verb. -/
def verbPerson : List Affix :=
  suffixes [("ت ا ن ي", 4), ("نا تا تن", 5), ("ان ون ين تما", 6)]

/-- The endings of plural verbs. -/
def verbPlural : List Affix := suffixes [("وا تم", 5)]

/-- The endings of plural verbs before a pronoun. -/
def verbPluralJoined : List Affix := suffixes [("و", 4), ("تمو", 6)]

/-- The pronouns after a noun. -/
def nounPronoun : List Affix :=
  suffixes [("ي ك ه", 4), ("نا كم ها هن هم", 5), ("كما هما", 6)]

/-- The last letter of duals and plurals. -/
def nounNun : List Affix := suffixes [("ن", 6)]

/-- The long vowels at the end of a noun. -/
def nounVowel : List Affix := suffixes [("ا ي و", 5)]

/-- The endings of feminine nouns. -/
def nounFemininePlural : List Affix := suffixes [("ات", 5)]

@[inherit_doc nounFemininePlural]
def nounFeminineJoined : List Affix := suffixes [("ت", 4)]

@[inherit_doc nounFemininePlural]
def nounFeminine : List Affix := suffixes [("ة", 4)]

/-- The ending of adjectives of origin. -/
def nounOrigin : List Affix := suffixes [("ي", 3)]

/-- Takes off pronouns as long as there are any. Each time the word gets shorter. -/
def dropPronouns : Nat → Spelling → Option Spelling
  | 0, _ => none
  | n + 1, w => (replace verbPronoun 0 w).map fun w => (dropPronouns n w).getD w

/-- A verb without its endings, if it has any. -/
def verbEndings (w : Spelling) : Option Spelling :=
  match dropPronouns w.length w with
  | some w => some (((replace verbPerson 0 w).or (replace verbPluralJoined 0 w)).getD w)
  | none => (replace verbPlural 0 w).or (replace verbPerson 0 w)

/-- The endings of a noun after which a pronoun, or the last letter of a plural, stood. -/
def nounJoined (w : Spelling) : Option Spelling :=
  (replace nounVowel 0 w).or <| (replace nounFemininePlural 0 w).or (replace nounFeminineJoined 0 w)

/-- A noun without the endings before which that of origin may stand, as the letters that are passed
over and the others. A pronoun that stands alone leaves the letter before it passed over. -/
def nounEndings (defined : Bool) (w : Spelling) : List Char × Spelling :=
  match replace nounFeminine 0 w with
  | some w => ([], w)
  | none =>
    match if defined then none else replace nounPronoun 0 w with
    | some w =>
      match nounJoined w with
      | some w => ([], w)
      | none => (w.take 1, w.drop 1)
    | none =>
      let shorter := replace nounNun 0 w
      match shorter.bind nounJoined with
      | some w => ([], w)
      | none =>
        let w := shorter.getD w
        let vowel := if defined then none else replace nounVowel 0 w
        ([], (vowel.or (replace nounFemininePlural 0 w)).getD w)

/-- A last long `a` that is written like a `y` without its dots. -/
def lastAlef : Spelling → Spelling
  | 'ى' :: w => 'ي' :: w
  | w => w

/-- A word without its endings. -/
def dropEndings (isVerb defined : Bool) (w : Spelling) : Spelling :=
  match if isVerb then verbEndings w else none with
  | some w => w
  | none =>
    let (passed, w) := nounEndings defined w
    match replace nounOrigin passed.length w with
    | some w => passed ++ w
    | none => lastAlef (passed ++ w)

/-! ## Prefixes -/

/-- The articles, also with a preposition. -/
def articles : List Affix :=
  prefixes [("بال", 5, ""), ("كال", 5, ""), ("لل", 4, ""), ("ال", 4, "")]

/-- The letter that makes a question, before a hamza. -/
def question : List Affix :=
  prefixes [("أأ", 4, "أ"), ("أآ", 4, "آ"), ("أؤ", 4, "أ"), ("أا", 4, "ا"), ("أإ", 4, "إ")]

/-- The letters that join a word to the one before it. -/
def conjunction : List Affix := prefixes [("ف", 4, ""), ("و", 4, "")]

/-- The articles that are taken off, also with a preposition. -/
def article : List Affix :=
  prefixes [("بال", 6, ""), ("كال", 6, ""), ("لل", 5, ""), ("ال", 5, "")]

/-- The prepositions. -/
def preposition : List Affix := prefixes [("ب", 4, ""), ("بب", 4, "ب"), ("كك", 4, "ك")]

/-- The letter that makes the future of a verb. -/
def future : List Affix :=
  prefixes [("سي", 5, "ي"), ("ست", 5, "ت"), ("سن", 5, "ن"), ("سأ", 5, "أ")]

/-- The beginnings of verbs of the tenth form. -/
def tenthForm : List Affix :=
  prefixes [("يست", 5, "است"), ("نست", 5, "است"), ("تست", 5, "است")]

/-- Whether the letters begin with a text. -/
def startsWith (text : String) (letters : List Char) : Bool :=
  text.toList.isPrefixOf letters

/-- The prefixes of a noun or verb. Where a letter takes the place of a prefix, the next prefix is
looked for after it. -/
def dropStart (isVerb : Bool) (more : Nat) (letters : List Char) : List Char :=
  let ofNoun :=
    (replace article more letters).or
      (if startsWith "با" letters then none else replace preposition more letters)
  match ofNoun with
  | some letters => letters
  | none =>
    if isVerb then
      match replace future more letters with
      | some letters =>
        letters.take 1 ++
          (replace tenthForm (more + 1) (letters.drop 1)).getD (letters.drop 1)
      | none => (replace tenthForm more letters).getD letters
    else letters

/-- A word without its prefixes. -/
def dropPrefixes (isVerb : Bool) (letters : List Char) : List Char :=
  let (passed, letters) :=
    match replace question 0 letters with
    | some letters => (letters.take 1, letters.drop 1)
    | none => ([], letters)
  let joined :=
    if startsWith "فا" letters || startsWith "وا" letters then none
    else replace conjunction passed.length letters
  passed ++ dropStart isVerb passed.length (joined.getD letters)

/-- The stem of a word. -/
def stem (word : String) : String :=
  let cs := word.toList
  let defined := (replace articles 0 cs).isSome
  let w := dropEndings (!defined) defined (cs.flatMap commonForm).reverse
  let letters := dropPrefixes (!defined) w.reverse
  String.ofList ((lastHamza letters.reverse).reverse.map withoutHamza)

end EventIntake.Stemming.Arabic
