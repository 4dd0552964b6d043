/-!
# Endings

A stemmer takes endings off a word. The words here are spelled from their last letter, so that an
ending is what the spelling begins with. A table of endings gives a rule for each; of several endings
that a word has, the longest counts, and only its rule is tried. A rule sees what stands before the
ending and gives the new word, or nothing if it does not apply.

Rules are held back by regions: an ending may have to stand after the first vowel and the consonant
that follows it, for instance. A region is given by the number of letters before it.
-/

namespace EventIntake.Stemming

/-- A word spelled from its last letter. -/
abbrev Spelling := List Char

/-- The spelling of a text. -/
def spell (s : String) : Spelling :=
  s.toList.reverse

/-- The regions of a word, each as the number of letters before it. -/
structure Regions where
  /-- where verb endings may stand -/
  rv : Nat
  /-- where most endings may stand -/
  r1 : Nat
  /-- where long endings may stand -/
  r2 : Nat

/-- Of the letters before an ending, the new word, if the rule applies. -/
abbrev Rule := Regions → Spelling → Option Spelling

/-! ## Rules -/

/-- Takes the ending off. -/
def drop : Rule := fun _ w => some w

/-- Keeps the word out of reach of other rules without changing it. -/
def refuse : Rule := fun _ _ => none

/-- Puts another ending in its place. -/
def put (ending : String) : Rule :=
  let letters := spell ending
  fun _ w => some (letters ++ w)

/-- The rule, if its ending stands in the verb region. -/
def Rule.inRV (rule : Rule) : Rule :=
  fun g w => if g.rv ≤ w.length then rule g w else none

/-- The rule, if its ending stands in the first region. -/
def Rule.inR1 (rule : Rule) : Rule :=
  fun g w => if g.r1 ≤ w.length then rule g w else none

/-- The rule, if its ending stands in the second region. -/
def Rule.inR2 (rule : Rule) : Rule :=
  fun g w => if g.r2 ≤ w.length then rule g w else none

/-- The rule, if the letter before its ending is in a class. -/
def Rule.after (rule : Rule) (p : Char → Bool) : Rule :=
  fun g w => if w.head?.any p then rule g w else none

/-- The rule, if the letter before its ending is in a class and in the verb region. -/
def Rule.afterInRV (rule : Rule) (p : Char → Bool) : Rule :=
  fun g w => if g.rv < w.length && w.head?.any p then rule g w else none

/-- The rule, if this text does not stand before its ending. -/
def Rule.notAfter (rule : Rule) (s : String) : Rule :=
  let letters := spell s
  fun g w => if letters.isPrefixOf w then none else rule g w

/-- The rule, if this text stands before its ending. -/
def Rule.afterText (rule : Rule) (s : String) : Rule :=
  let letters := spell s
  fun g w => if letters.isPrefixOf w then rule g w else none

/-- The rule, if one of these texts, separated by blanks, stands before its ending. -/
def Rule.afterAny (rule : Rule) (texts : String) : Rule :=
  let spellings := (texts.splitOn " ").map spell
  fun g w => if spellings.any (·.isPrefixOf w) then rule g w else none

/-- The rule, if what stands before its ending is one of these texts, separated by blanks. -/
def Rule.afterWhole (rule : Rule) (texts : String) : Rule :=
  let spellings := (texts.splitOn " ").map spell
  fun g w => if spellings.contains w then rule g w else none

/-- The first rule that applies. -/
def Rule.orElse (first second : Rule) : Rule :=
  fun g w => first g w <|> second g w

/-- The first rule, and on its result the second, if that applies. -/
def Rule.thenTry (first second : Rule) : Rule :=
  fun g w => (first g w).map fun w => (second g w).getD w

/-! ## Tables -/

/-- Endings with their rules, the longest first. -/
abbrev Endings := List (Spelling × Rule)

/-- The table of groups of endings with a common rule. The endings of a group are separated by blanks. -/
def endings (groups : List (String × Rule)) : Endings :=
  (groups.flatMap fun (list, rule) =>
    (list.splitOn " ").map fun ending => (spell ending, rule)).mergeSort
      fun a b => b.1.length ≤ a.1.length

/-- Applies the rule of the longest ending that the word has. -/
def Endings.apply (t : Endings) : Rule := fun g w =>
  match t.find? fun (ending, _) => ending.isPrefixOf w with
  | some (ending, rule) => rule g (w.drop ending.length)
  | none => none

/-- Applies the rule of the longest ending that the word has after its first `before` letters. -/
def Endings.applyFrom (t : Endings) (before : Nat) : Rule := fun g w =>
  let reach := w.take (w.length - before)
  match t.find? fun (ending, _) => ending.isPrefixOf reach with
  | some (ending, rule) => rule g (w.drop ending.length)
  | none => none

/-- Applies the rule of the longest ending that the word has in the verb region. -/
def Endings.inRV (t : Endings) : Rule := fun g w => t.applyFrom g.rv g w

/-- Applies the rule of the longest ending that the word has in the first region. -/
def Endings.inR1 (t : Endings) : Rule := fun g w => t.applyFrom g.r1 g w

/-- The rule of a single ending. -/
def ending (text : String) (rule : Rule) : Rule :=
  (endings [(text, rule)]).apply

/-- The word after a rule, or as it was if the rule does not apply. -/
def Rule.run (rule : Rule) (g : Regions) (w : Spelling) : Spelling :=
  (rule g w).getD w

/-! ## Letters in order -/

/-- Whether a letter is one of those of a text. -/
def among (letters : List Char) (c : Char) : Bool :=
  letters.contains c

/-- What follows the first letter in a class. -/
def goPast (p : Char → Bool) : List Char → Option (List Char)
  | [] => none
  | c :: cs => if p c then some cs else goPast p cs

/-- What follows the first letter in a class that comes after one that is not, or the other way
round: first a vowel, then a consonant. -/
def goPastSyllable (vowel : Char → Bool) (cs : List Char) : Option (List Char) :=
  (goPast vowel cs).bind (goPast (!vowel ·))

/-- How many letters come before the rest, or all of them if there is no rest. -/
def before (cs : List Char) (rest : Option (List Char)) : Nat :=
  cs.length - (rest.map List.length).getD 0

/-- The first region after a vowel and a consonant, and the second after one more of each. -/
def syllableRegions (vowel : Char → Bool) (cs : List Char) : Nat × Nat :=
  let first := goPastSyllable vowel cs
  (before cs first, before cs (first.bind (goPastSyllable vowel)))

/-- The verb region of the southern languages. After two vowels it begins after the next consonant;
after a vowel and a consonant, or two consonants, after the next vowel; after a consonant and a
vowel, after the third letter. -/
def romanceVerbRegion (vowel : Char → Bool) (cs : List Char) : Nat :=
  match cs with
  | a :: b :: rest =>
    if vowel a then
      if vowel b then before cs (goPast (!vowel ·) rest) else before cs (goPast vowel rest)
    else if vowel b then before cs (rest.tail?)
    else before cs (goPast vowel rest)
  | _ => cs.length

end EventIntake.Stemming
