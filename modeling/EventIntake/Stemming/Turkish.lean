import EventIntake.Stemming.Ending

/-!
# Turkish

The vowels of an ending go with the last vowel of what stands before it. An ending that may begin with
a joining letter is taken off with that letter, if a vowel stands before it, or without it, if none is
needed. The endings of predicates are taken off first, then those of nouns. Words of one syllable stay.

Endings of nouns form chains before `ki`. A chain is looked for even where its discovery is only part
of what is asked for, and what it takes off stays off.
-/

namespace EventIntake.Stemming.Turkish

/-- What stands before an ending, if the word has it. -/
abbrev Cut := Spelling → Option Spelling

/-! ## Sounds -/

/-- The vowels. -/
def isVowel : Char → Bool :=
  among ['a', 'e', 'ı', 'i', 'o', 'ö', 'u', 'ü']

/-- The close vowels. -/
def isClose : Char → Bool :=
  among ['ı', 'i', 'u', 'ü']

/-- The vowels that may stand before a vowel. -/
def harmonious : Char → List Char
  | 'a' => ['a', 'ı', 'o', 'u']
  | 'e' => ['e', 'i', 'ö', 'ü']
  | 'ı' => ['a', 'ı']
  | 'i' => ['e', 'i']
  | 'o' | 'u' => ['o', 'u']
  | 'ö' | 'ü' => ['ö', 'ü']
  | _ => []

/-- Whether some vowel before the last one goes with it. -/
def inHarmony (w : Spelling) : Bool :=
  match w.dropWhile (!isVowel ·) with
  | v :: rest => rest.any (among (harmonious v))
  | [] => false

/-- Passes over a joining letter, if there is one, after a letter of the other kind. -/
def joined (isJoint isOther : Char → Bool) : Cut
  | a :: b :: rest =>
    if isOther b then some (if isJoint a then b :: rest else a :: b :: rest) else none
  | _ => none

/-- Passes over a joining consonant after a vowel. -/
def joinedBy (c : Char) : Cut := joined (· == c) isVowel

/-- Passes over a joining vowel after a consonant. -/
def joinedByVowel : Cut := joined isClose (!isVowel ·)

/-- One of several endings, the longest that the word has. -/
def oneOf (texts : String) : Cut :=
  let spellings := ((texts.splitOn " ").map spell).mergeSort fun a b => b.length ≤ a.length
  fun w => (spellings.find? (·.isPrefixOf w)).map fun e => w.drop e.length

/-- An ending in harmony with the word. -/
def harmonic (cut : Cut) : Cut :=
  fun w => if inHarmony w then cut w else none

/-- One ending after another. -/
def Cut.andThen (first second : Cut) : Cut :=
  fun w => (first w).bind second

/-- The first of several endings that the word has. -/
def firstOf (cuts : List Cut) : Cut :=
  fun w => cuts.findSome? (· w)

/-- The word without an ending, if it has it. -/
def Cut.run (cut : Cut) (w : Spelling) : Spelling :=
  (cut w).getD w

/-! ## Endings -/

/-- The owner: my, your, our. -/
def owner : Cut := Cut.andThen (oneOf "m n mız miz muz müz nız niz nuz nüz") joinedByVowel

/-- The thing owned by a third person. -/
def owned : Cut := harmonic (Cut.andThen (oneOf "ı i u ü") (joinedBy 's'))

/-- The things owned by a third person. -/
def allOwned : Cut := oneOf "leri ları"

/-- The object. -/
def object : Cut := harmonic (Cut.andThen (oneOf "ı i u ü") (joinedBy 'y'))

/-- The object after a pronoun. -/
def objectN : Cut := harmonic (oneOf "nı ni nu nü")

/-- Of. -/
def genitive : Cut := harmonic (Cut.andThen (oneOf "ın in un ün") (joinedBy 'n'))

/-- To. -/
def dative : Cut := harmonic (Cut.andThen (oneOf "a e") (joinedBy 'y'))

/-- To, after a pronoun. -/
def dativeN : Cut := harmonic (oneOf "na ne")

/-- In. -/
def locative : Cut := harmonic (oneOf "da de ta te")

/-- In, after a pronoun. -/
def locativeN : Cut := harmonic (oneOf "nda nde")

/-- From. -/
def ablative : Cut := harmonic (oneOf "dan den tan ten")

/-- From, after a pronoun. -/
def ablativeN : Cut := harmonic (oneOf "ndan nden")

/-- With. -/
def instrumental : Cut := harmonic (Cut.andThen (oneOf "la le") (joinedBy 'y'))

/-- In the manner of. -/
def manner : Cut := harmonic (Cut.andThen (oneOf "ca ce") (joinedBy 'n'))

/-- What is at a place. -/
def ki : Cut := oneOf "ki"

/-- The plural. -/
def plural : Cut := harmonic (oneOf "ler lar")

/-- I am. -/
def amI : Cut := harmonic (Cut.andThen (oneOf "ım im um üm") (joinedBy 'y'))

/-- You are. -/
def areYou : Cut := harmonic (oneOf "sın sin sun sün")

/-- We are. -/
def areWe : Cut := harmonic (Cut.andThen (oneOf "ız iz uz üz") (joinedBy 'y'))

/-- You all are. -/
def areYouAll : Cut := oneOf "sınız siniz sunuz sünüz"

/-- You all, in the past. -/
def youAll : Cut := harmonic (oneOf "nız niz nuz nüz")

/-- It certainly is. -/
def certainly : Cut := harmonic (oneOf "tır tir tur tür dır dir dur dür")

/-- As if. -/
def asIf : Cut := oneOf "casına cesine"

/-- It was. -/
def past : Cut := harmonic <| Cut.andThen
  (oneOf <| "tım tim tum tüm dım dim dum düm tın tin tun tün dın din dun dün tık tik tuk tük dık dik " ++
    "duk dük tı ti tu tü dı di du dü") (joinedBy 'y')

/-- If it is. -/
def conditional : Cut := Cut.andThen (oneOf "sam san sak sem sen sek sa se") (joinedBy 'y')

/-- It is said to be. -/
def said : Cut := harmonic (Cut.andThen (oneOf "mış miş muş müş") (joinedBy 'y'))

/-- While it is. -/
def whileIs : Cut := Cut.andThen (oneOf "ken") (joinedBy 'y')

/-! ## Predicates -/

/-- The person of a predicate. -/
def person : Cut := firstOf [areYouAll, plural, amI, areYou, areWe]

/-- A predicate without its endings, and whether endings of nouns may be left. -/
def dropPredicate (w : Spelling) : Spelling × Bool :=
  match firstOf [said, past, conditional, whileIs] w with
  | some w => (w, true)
  | none =>
    match (asIf w).bind fun w => said (person.run w) with
    | some w => (w, true)
    | none =>
      match plural w with
      | some w => ((firstOf [certainly, past, conditional, said]).run w, false)
      | none =>
        match (youAll w).bind (firstOf [past, conditional]) with
        | some w => (w, true)
        | none =>
          match firstOf [areYouAll, areWe, areYou, amI] w with
          | some w => (said.run w, true)
          | none =>
            match certainly w with
            | some w => (((said (person.run w))).getD w, true)
            | none => (w, true)

/-! ## Chains before `ki` -/

/-- The letters of a word before a cut, changed, and the cut letters put back. -/
def putBack (whole kept changed : Spelling) : Spelling :=
  whole.take (whole.length - kept.length) ++ changed

/-- Takes off a plural, and before it a chain. -/
def dropPluralThen (chain : Spelling → Spelling × Bool) (w : Spelling) : Spelling :=
  match plural w with
  | some w => (chain w).1
  | none => w

/-- Takes off a chain of endings before `ki`, and tells whether there is one. The bound is on the
number of links. -/
def dropChain : Nat → Spelling → Spelling × Bool
  | 0, w => (w, false)
  | n + 1, w =>
    match ki w with
    | none => (w, false)
    | some v =>
      match locative v with
      | some v =>
        match plural v with
        | some v => ((dropChain n v).1, true)
        | none =>
          match owner v with
          | some v => (dropPluralThen (dropChain n) v, true)
          | none => (v, true)
      | none =>
        match genitive v with
        | some v =>
          match allOwned v with
          | some v => (v, true)
          | none =>
            match firstOf [owner, owned] v with
            | some v => (dropPluralThen (dropChain n) v, true)
            | none => ((dropChain n v).1, true)
        | none =>
          match locativeN v with
          | some v =>
            match allOwned v with
            | some v => (v, true)
            | none =>
              match owned v with
              | some v => (dropPluralThen (dropChain n) v, true)
              | none =>
                let (changed, found) := dropChain n v
                (putBack w v changed, found)
          | none => (w, false)

/-- Takes off a chain of endings before `ki`. Every link has letters. -/
def chain (w : Spelling) : Spelling × Bool :=
  dropChain w.length w

/-! ## Nouns -/

/-- A step of the search for the endings of a noun: the word after it, and whether the search is over. -/
abbrev Step := Spelling → Spelling × Bool

/-- Takes off an ending, and goes on if the word has it. -/
def Cut.ends (cut : Cut) (next : Spelling → Spelling) : Step := fun w =>
  match cut w with
  | some w => (next w, true)
  | none => (w, false)

/-- Takes off an owner, then a plural and a chain. -/
def dropOwner (cut : Cut) : Step :=
  cut.ends (dropPluralThen chain)

/-- The first step that ends the search. What the steps before it changed stays changed. -/
def inTurn (steps : List Step) : Step := fun w =>
  steps.foldl (fun (w, ended) step => if ended then (w, true) else step w) (w, false)

/-- After the locative or dative with `n`. -/
def oblique : Step := fun w =>
  match firstOf [locativeN, dativeN] w with
  | none => (w, false)
  | some v =>
    match allOwned v with
    | some v => (v, true)
    | none =>
      match owned v with
      | some v => (dropPluralThen chain v, true)
      | none =>
        let (changed, found) := chain v
        (putBack w v changed, found)

/-- After the ablative or object with `n`. -/
def separated : Step := fun w =>
  match firstOf [ablativeN, objectN] w with
  | none => (w, false)
  | some v =>
    match owned v with
    | some v => (dropPluralThen chain v, true)
    | none => (w, (allOwned v).isSome)

/-- The plural and a chain, where both are asked for. -/
def pluralChain : Step := fun w =>
  match plural w with
  | some w => chain w
  | none => (w, false)

/-- What may stand before the dative, the object or the locative. -/
def beforeCase (w : Spelling) : Spelling :=
  match owner w with
  | some w => (chain (plural.run w)).1
  | none => dropPluralThen chain w

/-- A noun without its endings. -/
def dropNoun (w : Spelling) : Spelling :=
  (inTurn [
    plural.ends fun w => (chain w).1,
    manner.ends fun w => (inTurn [
      allOwned.ends id, dropOwner (firstOf [owner, owned]), pluralChain] w).1,
    oblique,
    separated,
    ablative.ends fun w => (inTurn [
      dropOwner owner, plural.ends fun w => (chain w).1, chain] w).1,
    (firstOf [genitive, instrumental]).ends fun w => (inTurn [
      pluralChain, dropOwner (firstOf [owner, owned]), chain] w).1,
    allOwned.ends id,
    chain,
    (firstOf [locative, object, dative]).ends beforeCase,
    dropOwner (firstOf [owner, owned])] w).1

/-! ## Words -/

/-- Puts a close vowel that goes with the last vowel after a `d` or `g`. -/
def closeStem (w : Spelling) : Spelling :=
  match w with
  | c :: _ =>
    if c == 'd' || c == 'g' then
      match w.find? isVowel with
      | some 'a' | some 'ı' => 'ı' :: w
      | some 'e' | some 'i' => 'i' :: w
      | some 'o' | some 'u' => 'u' :: w
      | some 'ö' | some 'ü' => 'ü' :: w
      | _ => w
    else w
  | [] => []

/-- Hardens the last consonant. -/
def harden : Spelling → Spelling
  | 'b' :: w => 'p' :: w
  | 'c' :: w => 'ç' :: w
  | 'd' :: w => 't' :: w
  | 'ğ' :: w => 'k' :: w
  | w => w

/-- The stem of a word. -/
def stem (word : String) : String :=
  let cs := word.toList
  if (cs.filter isVowel).length < 2 then word
  else
    let (w, more) := dropPredicate cs.reverse
    let w :=
      if more then
        let w := dropNoun w
        if w == spell "ad" || w == spell "soyad" then w else harden (closeStem w)
      else w
    String.ofList w.reverse

end EventIntake.Stemming.Turkish
