import EventIntake.Stemming.Ending

/-!
# Tamil

Question words, pronouns, case endings, plurals, commands and tenses are taken off in turn. In between
the end of the word is mended: a sign that ends a consonant, and what it joined to the ending, is
taken off or put in its place. Affixes are taken off words of more than four signs only, and the end is
mended of words of more than three.
-/

namespace EventIntake.Stemming.Tamil

/-! ## Signs -/

/-- The vowel signs that are tested for. -/
def isVowelSign : Char → Bool :=
  among ['\u0bbe', '\u0bbf', '\u0bc0', '\u0bc1', '\u0bc2', '\u0bc6', '\u0bc7', '\u0bc8']

/-- The independent vowels. -/
def isVowel : Char → Bool :=
  among ['அ', 'ஆ', 'இ', 'ஈ', 'உ', 'ஊ', 'எ', 'ஏ', 'ஐ', 'ஒ', 'ஓ', 'ஔ']

/-- The hard consonants. -/
def isHard : Char → Bool :=
  among ['க', 'ச', 'ட', 'த', 'ப', 'ற']

/-- The consonants that are neither hard nor foreign. -/
def isSoft : Char → Bool :=
  among ['ய', 'ர', 'ல', 'வ', 'ழ', 'ள', 'ங', 'ஞ', 'ண', 'ந', 'ம', 'ன']

/-- The consonants that are doubled after a pronoun. -/
def isDoubled : Char → Bool :=
  among ['க', 'ங', 'ச', 'ஞ', 'த', 'ந', 'ப', 'ம', 'ய', 'வ']

/-- The sign of a consonant without a vowel. -/
def virama : Char := '\u0bcd'

/-- Puts the virama in the place of the ending. -/
def close : Rule := put "\u0bcd"

/-- The rule, if the letter before its ending is not in a class. -/
def unlessAfter (rule : Rule) (p : Char → Bool) : Rule :=
  fun g w => if w.head?.any p then none else rule g w

/-- The first of several rules that applies. -/
def firstOf (rules : List Rule) : Rule :=
  rules.foldr Rule.orElse refuse

/-- The rule of several endings, separated by blanks, of which the first counts. -/
def anyOf (texts : String) (rule : Rule) : Rule :=
  firstOf ((texts.splitOn " ").map fun text => ending text rule)

/-! ## The end of a word -/

/-- Takes off a virama after a consonant of a class. -/
def dropClosed (p : Char → Bool) : Rule := fun _ w =>
  match w with
  | a :: b :: rest => if a == virama && p b then some rest else none
  | _ => none

/-- Writes a closed soft consonant after a virama as the virama alone. -/
def dropSoft : Rule := fun _ w =>
  match w with
  | a :: b :: c :: rest =>
    if a == virama && isSoft b && c == virama then some (virama :: rest) else none
  | _ => none

/-- Mends the end of a word once. The flag tells whether a case ending has been taken off. -/
def mendOnce (afterCase : Bool) : Rule :=
  firstOf [
    (endings [("ந் ந்த ந்த்", drop)]).apply,
    ending "ய்" (drop.after fun c => c == '\u0bc8' || c == '\u0bbf' || c == '\u0bc0'),
    anyOf "ட்ப் ட்க்" (put "ள்"),
    ending "ன்ற்" (put "ல்"),
    ending "ற்க்" (put "ல்"),
    ending "ட்ட்" (put "டு"),
    if afterCase then ending "த்த்" (unlessAfter (put "ம்") (· == '\u0bc8')) else refuse,
    anyOf "\u0bc1க் \u0bc1க்க்" close,
    fun g w => (dropClosed isHard g w).bind (dropClosed isHard g),
    dropClosed isHard,
    dropSoft,
    (endings [("வ ய வ்", drop)]).apply,
    ending "னு" (drop.after isVowelSign),
    ending "ங்" (unlessAfter (put "ம்") (· == '\u0bc8')),
    ending "ங்" drop,
    ending "\u0bcd" (drop.after fun c => isVowelSign c || c == virama)]

/-- Mends the end of a word as long as it can be mended, up to a number of times. -/
def mend (afterCase : Bool) : Nat → Spelling → Spelling
  | 0, w => w
  | n + 1, w =>
    if w.length > 3 then
      match mendOnce afterCase ⟨0, 0, 0⟩ w with
      | some w => mend afterCase n w
      | none => w
    else w

/-- Mends the end of a word as long as it can be mended. Each time the word gets shorter. -/
def mendAll (afterCase : Bool) (w : Spelling) : Spelling :=
  mend afterCase w.length w

/-! ## Prefixes -/

/-- Writes a vowel at the start on its own that was joined to a `v`. -/
def openStart : List Char → List Char
  | 'வ' :: '\u0bcb' :: rest => 'ஓ' :: rest
  | 'வ' :: '\u0bca' :: rest => 'ஒ' :: rest
  | 'வ' :: '\u0bc1' :: rest => 'உ' :: rest
  | 'வ' :: '\u0bc2' :: rest => 'ஊ' :: rest
  | cs => cs

/-- Takes off a vowel of a class at the start, and the first half of the doubled consonant after it. -/
def dropStart (p : Char → Bool) : List Char → List Char
  | a :: b :: '\u0bcd' :: rest => if p a && isDoubled b then openStart rest else a :: b :: '\u0bcd' :: rest
  | cs => cs

/-! ## Endings -/

/-- The vowels that make a question. -/
def question : Endings := endings [("\u0bcb \u0bc7 \u0bbe", close)]

/-- The ending `um`. -/
def conjunction : Rule := ending "\u0bc1ம்" close

/-- Words that are joined to others. -/
def joinedWord : Rule :=
  firstOf [
    anyOf ("\u0bc1டன் \u0bbfல்ல\u0bc8 \u0bbfடம் \u0bbfன்றி \u0bbeகி \u0bbeகிய \u0bc6ன்று " ++
      "\u0bc1ள்ள \u0bc1டைய \u0bc1டை \u0bc6னும்") close,
    ending "ல்ல" (unlessAfter close isVowelSign),
    anyOf "\u0bc6ன \u0bbeகி" close,
    (endings [
      ("படு பட்ட பட்டு பட்டது பட்டண குரிய பற்றி விடு விட்டு படிதான படி தான \u0bc6ல்லாம்", drop)]).apply]

/-- The endings of cases. -/
def caseEnding : Rule :=
  firstOf [
    ending "னை" drop,
    anyOf "\u0bbfனை \u0bc8" (unlessAfter close isHard),
    ending "\u0bc8" fun g w =>
      match w with
      | a :: b :: _ => if a == virama && isHard b then close g w else none
      | _ => none,
    anyOf "\u0bcaடு \u0bcbடு \u0bbfல் \u0bbfற்" close,
    ending "\u0bbfன்" (unlessAfter close (· == 'ம')),
    anyOf "\u0bbfன்று \u0bbfருந்து விட" close,
    ending "\u0bbfடம்" (fun g w => if w.length ≥ 3 then close g w else none),
    anyOf "\u0bbeல் \u0bc1டை \u0bbeமல்" close,
    ending "ல்" (unlessAfter close isVowelSign),
    ending "\u0bc1ள்" close,
    anyOf "கண் முன் மேல் மேற் கீழ் பின்" drop,
    ending "து" (unlessAfter drop isVowelSign),
    ending "\u0bc0" (put "\u0bbf")]

/-- The endings of plurals. -/
def plural : Rule :=
  firstOf [
    ending "\u0bc1ங்கள்" (unlessAfter close isHard),
    ending "ற்கள்" (put "ல்"),
    ending "ட்கள்" (put "ள்"),
    ending "கள்" drop]

/-- The endings of commands. -/
def command : Endings := endings [("பி வி", drop)]

/-- The endings of tenses and persons. -/
def tense : Rule :=
  firstOf [
    (endings [("கொண்டிர் படு", drop)]).apply,
    anyOf "மார் மின் னன் னான் னாள் னார்" drop,
    ending "வன்" (unlessAfter drop isVowel),
    anyOf "னள் வள் னர் வர் ன ப க த ய பன் பள் பர்" drop,
    ending "து" (unlessAfter drop isVowelSign),
    anyOf "\u0bbfற்று பம் னம் தும் றும் கும் னென் னை வை" drop,
    ending "\u0bbeன்" (unlessAfter close (· == 'ச')),
    anyOf ("\u0bbeள் \u0bbeர் \u0bc7ன் \u0bbe \u0bbeம் \u0bc6ம் \u0bc7ம் \u0bcbம் கும் தும் டும் " ++
      "றும் \u0bbeய் னென் னிர் \u0bc0ர் \u0bc0யர்") close,
    anyOf "கு து" (drop.after (· == virama))]

/-- The signs of the present tense. -/
def present : Endings := endings [
  ("\u0bbeனின்ற \u0bbeனின்ற் கின்ற கின்ற் கிற கிற்", drop)]

/-! ## Words -/

/-- A step for words of more than four signs. -/
def whenLong (step : Spelling → Spelling) (w : Spelling) : Spelling :=
  if w.length > 4 then step w else w

/-- Takes off the endings of tenses as long as there are any, up to a number of times. -/
def dropTenses (afterCase : Bool) : Nat → Spelling → Spelling
  | 0, w => w
  | n + 1, w =>
    if w.length > 4 then
      let first := tense ⟨0, 0, 0⟩ w
      let second := present.apply ⟨0, 0, 0⟩ (first.getD w)
      let v := mendAll afterCase (second.getD (first.getD w))
      if first.isSome || second.isSome then dropTenses afterCase n v else v
    else w

/-- The steps of a word that is long enough. -/
def dropAffixes (w : Spelling) : Spelling :=
  let g : Regions := ⟨0, 0, 0⟩
  let w := (dropStart (· == 'எ') w.reverse |> dropStart (among ['அ', 'இ', 'உ'])).reverse
  let w := whenLong (fun w => mendAll false (question.apply.run g w)) w
  let w := whenLong (fun w => ((conjunction g w).map (mend false 1)).getD w) w
  let w := whenLong (fun w => ((joinedWord g w).map (mendAll false)).getD w) w
  let cased := if w.length > 4 then caseEnding g w else none
  let w := (cased.map fun w => mendAll true ((ending "\u0bbfன்" close).run g w)).getD w
  let w := plural.run g w
  let w := whenLong (command.apply.run g) w
  dropTenses cased.isSome w.length w

/-- The stem of a word. -/
def stem (word : String) : String :=
  let w := mend false 1 (spell word)
  String.ofList (whenLong dropAffixes w).reverse

end EventIntake.Stemming.Tamil
