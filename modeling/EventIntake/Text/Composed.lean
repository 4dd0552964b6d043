import EventIntake.Text.Decomposition

/-!
# Composed form

Normalization form C: characters are taken apart into letters and marks, the marks after a letter
are put in order, and what can be one character is made one again.
-/

namespace EventIntake.Text

/-! ## Hangul syllables -/

/-- The first and the third part of Hangul syllables begin here; the second at `hangulVowel`. -/
def hangulLead : Nat := 0x1100

/-- The first vowel of Hangul. -/
def hangulVowel : Nat := 0x1161

/-- The character before the first final consonant of Hangul. -/
def hangulTail : Nat := 0x11A7

/-- The first syllable of Hangul. -/
def hangulSyllable : Nat := 0xAC00

/-- The letters of a Hangul syllable. -/
def hangulLetters? (n : Nat) : Option (List Nat) :=
  if hangulSyllable ≤ n ∧ n < hangulSyllable + 19 * 21 * 28 then
    let i := n - hangulSyllable
    let letters := [hangulLead + i / (21 * 28), hangulVowel + i / 28 % 21]
    some (if i % 28 = 0 then letters else letters ++ [hangulTail + i % 28])
  else none

/-- The Hangul syllable of two letters, or of a syllable without final consonant and one. -/
def hangulPair? (a b : Nat) : Option Nat :=
  if hangulLead ≤ a ∧ a < hangulLead + 19 ∧ hangulVowel ≤ b ∧ b < hangulVowel + 21 then
    some (hangulSyllable + ((a - hangulLead) * 21 + (b - hangulVowel)) * 28)
  else if hangulSyllable ≤ a ∧ a < hangulSyllable + 19 * 21 * 28 ∧ (a - hangulSyllable) % 28 = 0 ∧
      hangulTail < b ∧ b < hangulTail + 28 then
    some (a + (b - hangulTail))
  else none

/-! ## Taking apart -/

/-- Takes the first character apart, if it stands for a pair. -/
def unfoldFirst : List Nat → List Nat
  | n :: rest =>
    match composites.get? n with
    | some pair => pair ++ rest
    | none => n :: rest
  | [] => []

/-- The letter and the marks that a character is the same as. No pair holds more than two others. -/
def decomposition (n : Nat) : List Nat :=
  match hangulLetters? n <|> replaced.get? n with
  | some parts => parts
  | none => unfoldFirst (unfoldFirst (unfoldFirst [n]))

/-- The combining class of a character; zero for one that begins something new. -/
def combiningClass (n : Nat) : Nat :=
  match combiningClasses.get? n with
  | some [k] => k
  | _ => 0

/-- Sorts the marks gathered so far, last first, into `done`, which holds what is before them. -/
def flushMarks (marks : List (Nat × Nat)) (done : List (Nat × Nat)) : List (Nat × Nat) :=
  (marks.reverse.mergeSort fun a b => a.1 ≤ b.1).reverse ++ done

/-- Puts the marks after each letter in the order of their classes. Marks of one class keep theirs.
The characters come with their classes; `marks` and `done` hold those before, last first. -/
def orderMarks (marks done : List (Nat × Nat)) : List (Nat × Nat) → List (Nat × Nat)
  | [] => (flushMarks marks done).reverse
  | c :: rest =>
    if c.1 = 0 then orderMarks [] (c :: flushMarks marks done) rest
    else orderMarks (c :: marks) done rest

/-- The characters of a text, taken apart and in order, with their combining classes. -/
def decomposed (text : List Nat) : List (Nat × Nat) :=
  orderMarks [] [] ((text.flatMap decomposition).map fun n => (combiningClass n, n))

/-! ## Putting together -/

/-- Two characters and the one that stands for them. -/
structure Composite where
  first : Nat
  second : Nat
  whole : Nat

/-- Whether a pair comes before another, or is the same. -/
def Composite.precedes (a b : Composite) : Bool :=
  a.first < b.first || a.first == b.first && a.second ≤ b.second

/-- The pairs that a run of the table stands for. -/
def CodeRun.composites (r : CodeRun) : List Composite :=
  match r.entries with
  | .listed entries => entries.toList.zipIdx.filterMap fun (entry, i) =>
      match entry with
      | [first, second] => some ⟨first, second, r.start + i⟩
      | _ => none
  | _ => []

/-- All pairs that have a character of their own, in order. -/
def compositePairs : Array Composite :=
  ((composites.runs.toList.flatMap CodeRun.composites).mergeSort Composite.precedes).toArray

/-- Where a pair stands in the list of pairs between `low` and `high`, if it does. -/
def findPair (first second low high : Nat) : Nat :=
  if low < high then
    let middle := (low + high) / 2
    if compositePairs[middle]?.any (fun p => p.first < first || p.first == first && p.second < second)
    then findPair first second (middle + 1) high
    else findPair first second low middle
  else low
termination_by high - low

/-- The character that stands for a pair. -/
def pair? (first second : Nat) : Option Nat :=
  match hangulPair? first second with
  | some whole => some whole
  | none => do
    let p ← compositePairs[findPair first second 0 compositePairs.size]?
    if p.first = first ∧ p.second = second then some p.whole else none

/-- What has been put together of a text. -/
structure Composing where
  /-- what comes before the last letter, last first -/
  done : List Nat
  /-- the last letter, if there is one -/
  letter : Option Nat
  /-- the marks that could not be joined with it, last first -/
  marks : List Nat
  /-- the class of the last of these marks; zero if there is none -/
  lastClass : Nat

/-- Adds a character with its class. It is joined with the last letter, if the two have a character
of their own and no mark between them keeps it away. -/
def Composing.add (s : Composing) (c : Nat × Nat) : Composing :=
  let near := s.marks.isEmpty || s.lastClass < c.1
  match (if near then s.letter.bind (pair? · c.2) else none) with
  | some whole => { s with letter := some whole }
  | none =>
    if c.1 = 0 then ⟨s.marks ++ s.letter.toList ++ s.done, some c.2, [], 0⟩
    else { s with marks := c.2 :: s.marks, lastClass := c.1 }

/-- The composed form of a text. -/
def composed (text : List Char) : List Char :=
  let s := (decomposed (text.map Char.toNat)).foldl Composing.add ⟨[], none, [], 0⟩
  (s.marks ++ s.letter.toList ++ s.done).reverse.map Char.ofNat

end EventIntake.Text
