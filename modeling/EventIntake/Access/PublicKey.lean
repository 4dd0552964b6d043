import EventIntake.Text.Digit

/-!
# Public keys

A public key is a number of 128 bits, kept as its 32 hexadecimal digits. It is written in lower case
in five groups, and read in groups or without them, in either case.
-/

namespace EventIntake

/-- A public key. -/
structure PublicKey where
  digits : List HexDigit
  length_eq : digits.length = 32
  deriving DecidableEq

namespace PublicKey

instance : Inhabited PublicKey := ⟨⟨List.replicate 32 0, by simp⟩⟩

/-- The key with these digits, if there are 32. -/
def ofDigits? (digits : List HexDigit) : Option PublicKey :=
  if h : digits.length = 32 then some ⟨digits, h⟩ else none

/-- The lengths of the groups of digits. -/
def groups : List Nat := [8, 4, 4, 4, 12]

/-- Puts hyphens between groups of the given lengths. -/
def hyphenate : List Nat → List Char → List Char
  | [], cs => cs
  | [_], cs => cs
  | n :: ns, cs => cs.take n ++ '-' :: hyphenate ns (cs.drop n)

/-- Takes out the hyphens between groups of the given lengths, if they are there. -/
def unhyphenate? : List Nat → List Char → Option (List Char)
  | [], cs => some cs
  | [_], cs => some cs
  | n :: ns, cs =>
    match cs.drop n with
    | '-' :: rest => (unhyphenate? ns rest).map (cs.take n ++ ·)
    | _ => none

/-- A key in groups, in lower case. -/
def text (k : PublicKey) : String :=
  String.ofList (hyphenate groups (k.digits.map HexDigit.toChar))

/-- Reads digits without groups from 32 bytes, and digits in groups from 36. A text of any other size
is no key. -/
def parse (s : String) : Option PublicKey := do
  let cs := s.toList
  let plain ←
    if s.utf8ByteSize = 32 then some cs
    else if s.utf8ByteSize = 36 then unhyphenate? groups cs
    else none
  ofDigits? (← plain.mapM HexDigit.ofChar?)

/-- The key of 16 bytes drawn at random, with the marks of a random identifier. -/
def ofRandomBytes (bytes : List UInt8) : PublicKey :=
  let digits := ((List.range 32).map fun i =>
    let b := (bytes.getD (i / 2) 0).toNat
    let d := if i % 2 = 0 then b / 16 else b % 16
    if i = 12 then 4 else if i = 16 then 8 + d % 4 else d)
  ⟨digits.map (Fin.ofNat 16 ·), by simp [digits]⟩

end PublicKey

end EventIntake
