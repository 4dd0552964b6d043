/-!
# Punycode

A text as ASCII characters: first its ASCII characters, then, after a hyphen, where the others are to
be inserted. The others come in the order of their code points. Each is one number, which counts the
places that are passed over since the last insertion, where every code point has all places of the
text so far. A number is written with digits of base 36, the least first; which digits end a number
adapts to the numbers before.
-/

namespace EventIntake.Url.Punycode

/-- The number of digits. -/
def base : Nat := 36

/-- What the first threshold is measured by. -/
def initialBias : Nat := 72

/-- The first code point that is no ASCII character. -/
def initialCode : Nat := 128

/-- No number comes up to this. -/
def numberBound : Nat := UInt32.size

/-- The longest text that is encoded. -/
def longestText : Nat := 1000

/-- The longest encoded text that is decoded. -/
def longestEncoded : Nat := 2000

/-- The least digit that does not end a number, where `k` is the base times the digit's place, the
first place being one. -/
def threshold (k bias : Nat) : Nat :=
  if k ≤ bias then 1 else min (k - bias) 26

/-- Takes from a number what the bias need not tell apart, and how many digits that is, times the
base. -/
def shrink (delta k : Nat) : Nat × Nat :=
  if 455 < delta then shrink (delta / 35) (k + base) else (delta, k)
termination_by delta
decreasing_by exact Nat.div_lt_self (by omega) (by omega)

/-- The bias after a number, when the text has come to `length` characters. -/
def adapt (delta length : Nat) (isFirst : Bool) : Nat :=
  let delta := if isFirst then delta / 700 else delta / 2
  let (delta, k) := shrink (delta + delta / length) 0
  k + base * delta / (delta + 38)

/-! ## Decoding -/

/-- The value of a digit. -/
def digitValue? (c : Char) : Option Nat :=
  if 'a' ≤ c ∧ c ≤ 'z' then some (c.toNat - 'a'.toNat)
  else if '0' ≤ c ∧ c ≤ '9' then some (c.toNat - '0'.toNat + 26)
  else none

/-- What has been decoded. -/
structure Decoding where
  /-- the characters inserted so far, and the ASCII ones -/
  chars : List Char
  /-- the code point that is inserted next, if no number passes it over -/
  code : Nat
  /-- the place in the text up to which the digits have counted -/
  place : Nat
  /-- the place where the number that is being read began -/
  start : Nat
  /-- what the next digit is multiplied by -/
  weight : Nat
  /-- the base times the place of the next digit -/
  k : Nat
  bias : Nat

/-- Reads a digit. -/
def Decoding.next (s : Decoding) (c : Char) : Option Decoding := do
  let digit ← digitValue? c
  let place := s.place + digit * s.weight
  let t := threshold s.k s.bias
  if numberBound ≤ place then none
  else if digit < t then
    let length := s.chars.length + 1
    let code := s.code + place / length
    let place := place % length
    if code.isValidChar then
      return ⟨s.chars.insertIdx place (Char.ofNat code), code, place + 1, place + 1, 1, base,
        adapt (s.place + digit * s.weight - s.start) length (s.start == 0)⟩
    else none
  else
    let weight := s.weight * (base - t)
    if numberBound ≤ weight then none else return { s with place, weight, k := s.k + base }

/-- The text that an encoded one stands for. -/
def decode? (cs : List Char) : Option (List Char) := do
  let digits := (cs.reverse.takeWhile (· != '-')).reverse
  let plain := cs.take (cs.length - digits.length - 1)
  if longestEncoded < cs.length ∨ digits.length + 1 = cs.length then none
  else
    let s ← digits.foldlM Decoding.next ⟨plain, initialCode, 0, 0, 1, base, initialBias⟩
    if s.k = base then some s.chars else none

/-! ## Encoding -/

/-- The digit with a value. -/
def digit (v : Nat) : Char :=
  if v < 26 then Char.ofNat ('a'.toNat + v) else Char.ofNat ('0'.toNat + v - 26)

theorem threshold_bounds (k bias : Nat) : 1 ≤ threshold k bias ∧ threshold k bias ≤ 26 := by
  unfold threshold
  split <;> omega

/-- The digits of a number. -/
def digits (bias k n : Nat) : List Char :=
  let t := threshold k bias
  if n < t then [digit n]
  else digit (t + (n - t) % (base - t)) :: digits bias (k + base) ((n - t) / (base - t))
termination_by n
decreasing_by
  have h := threshold_bounds k bias
  exact Nat.lt_of_le_of_lt (Nat.div_le_self _ _) (by omega)

/-- What has been encoded. -/
structure Encoding where
  /-- the digits so far, last first -/
  done : List Char
  /-- how many places have been passed over since the last insertion -/
  delta : Nat
  /-- how many characters are in the text so far -/
  length : Nat
  /-- whether nothing has been inserted -/
  isFirst : Bool
  bias : Nat

/-- Passes over a character of the text, or inserts it, if it is the one with this code point. -/
def Encoding.visit (code : Nat) (s : Encoding) (c : Char) : Encoding :=
  if c.toNat < code then { s with delta := s.delta + 1 }
  else if c.toNat = code then
    ⟨(digits s.bias base s.delta).reverse ++ s.done, 0, s.length + 1, false,
      adapt s.delta (s.length + 1) s.isFirst⟩
  else s

/-- Inserts the characters with this code point, after all with a code point below `next`. -/
def Encoding.insert (text : List Char) (s : Encoding × Nat) (code : Nat) : Encoding × Nat :=
  let (s, next) := s
  let s := text.foldl (Encoding.visit code)
    { s with delta := s.delta + (code - next) * (s.length + 1) }
  ({ s with delta := s.delta + 1 }, code + 1)

/-- The encoded form of a text. -/
def encode? (text : List Char) : Option (List Char) :=
  if longestText < text.length then none
  else
    let plain := text.filter (·.toNat < initialCode)
    let codes := (((text.map Char.toNat).filter (initialCode ≤ ·)).mergeSort).eraseReps
    let s := (codes.foldl (Encoding.insert text)
      (⟨[], 0, plain.length, true, initialBias⟩, initialCode)).1
    some (plain ++ (if plain.isEmpty then [] else ['-']) ++ s.done.reverse)

end EventIntake.Url.Punycode
