import EventIntake.Json.Failure
import EventIntake.Json.Numeral
import EventIntake.Text.Digit
import EventIntake.Text.Utf8

/-!
# Tokens

The pieces of a text: brackets, commas, colons, words, numerals and quoted strings. Reading never
fails. A piece that cannot be read becomes the token `broken`, which ends the list and remembers the
failure for whoever needs a value at this place.

A string keeps its escapes until somebody asks for its characters, because a string that is only
skipped is checked less strictly: its bytes need not be UTF-8, and surrogate escapes need not come
in pairs.
-/

namespace EventIntake.Json

open EventIntake.Text (Utf8.encodeChar Utf8.decode?)

/-- A quoted string as it stands between its quotes. -/
structure Quoted where
  /-- the bytes, with their escapes -/
  bytes : List UInt8
  /-- what ended the string early, if its closing quote was not reached -/
  fault : Option Failure
  deriving Inhabited

/-- A piece of a text. -/
inductive Token where
  | openArray
  | closeArray
  | openObject
  | closeObject
  | comma
  | colon
  | null
  | bool (b : Bool)
  | number (n : Numeral)
  | text (t : Quoted)
  /-- nothing that can be read; the failure for a reader who skips, and for one who needs a value -/
  | broken (skipped needed : Failure)
  deriving Inhabited

/-! ## Strings -/

/-- The value of four hexadecimal digits. -/
def hex4? (a b c d : UInt8) : Option Nat := do
  let digits ← [a, b, c, d].mapM HexDigit.ofByte?
  return digits.foldl (fun n d => n * 16 + d.val) 0

/-- What a backslash followed by one letter stands for. -/
def escaped? (b : UInt8) : Option UInt8 :=
  if b = 0x22 ∨ b = 0x5C ∨ b = 0x2F then some b
  else if b = 0x62 then some 0x08
  else if b = 0x66 then some 0x0C
  else if b = 0x6E then some 0x0A
  else if b = 0x72 then some 0x0D
  else if b = 0x74 then some 0x09
  else none

/-- Reads a string up to its closing quote, with what follows it; `taken` holds the bytes before, last
first. -/
def Quoted.scan (taken : List UInt8) : List UInt8 → Quoted × List UInt8
  | [] => (⟨taken.reverse, some .unfinished⟩, [])
  | 0x22 :: rest => (⟨taken.reverse, none⟩, rest)
  | 0x5C :: 0x75 :: a :: b :: c :: d :: rest =>
    if (hex4? a b c d).isSome then scan (d :: c :: b :: a :: 0x75 :: 0x5C :: taken) rest
    else (⟨taken.reverse, some .malformed⟩, [])
  | 0x5C :: e :: rest =>
    if (escaped? e).isSome then scan (e :: 0x5C :: taken) rest
    else if e = 0x75 then (⟨taken.reverse, some .unfinished⟩, [])
    else (⟨taken.reverse, some .malformed⟩, [])
  | b :: rest =>
    if b = 0x5C then (⟨taken.reverse, some .unfinished⟩, [])
    else if b < 0x20 then (⟨taken.reverse, some .malformed⟩, [])
    else scan (b :: taken) rest

theorem Quoted.length_scan_le (taken bs : List UInt8) :
    (Quoted.scan taken bs).2.length ≤ bs.length := by
  fun_induction Quoted.scan taken bs <;> simp_all <;> omega

/-- Writes out the escapes of a string; `done` holds the bytes before, last first. Two surrogate
escapes in a row are one character. -/
def Quoted.unescape (fault : Option Failure) (done : List UInt8) :
    List UInt8 → Except Failure (List UInt8)
  | 0x5C :: 0x75 :: a :: b :: c :: d :: rest =>
    let high := (hex4? a b c d).getD 0
    if 0xDC00 ≤ high ∧ high ≤ 0xDFFF then .error .malformed
    else if 0xD800 ≤ high ∧ high ≤ 0xDBFF then
      match rest with
      | [] => .error (fault.getD .malformed)
      | 0x5C :: 0x75 :: e :: f :: g :: h :: rest' =>
        let low := (hex4? e f g h).getD 0
        if 0xDC00 ≤ low ∧ low ≤ 0xDFFF then
          let c := Char.ofNat (0x10000 + (high - 0xD800) * 0x400 + (low - 0xDC00))
          unescape fault ((Utf8.encodeChar c).reverse ++ done) rest'
        else .error .malformed
      | _ => .error .malformed
    else unescape fault ((Utf8.encodeChar (Char.ofNat high)).reverse ++ done) rest
  | 0x5C :: e :: rest => unescape fault ((escaped? e).getD e :: done) rest
  | b :: rest => unescape fault (b :: done) rest
  | [] => match fault with
    | some f => .error f
    | none => .ok done.reverse

/-- The characters of a string. -/
def Quoted.chars (t : Quoted) : Except Failure (List Char) := do
  match Utf8.decode? (← Quoted.unescape t.fault [] t.bytes) with
  | some cs => return cs
  | none => throw .malformed

/-- The text of a string. -/
def Quoted.string (t : Quoted) : Except Failure String :=
  String.ofList <$> t.chars

/-! ## Numerals -/

/-- Whether the byte is a decimal digit. -/
def isDigit (b : UInt8) : Bool :=
  0x30 ≤ b && b ≤ 0x39

/-- The digits that a byte sequence begins with. -/
def digits (bs : List UInt8) : List Nat :=
  (bs.takeWhile isDigit).map (fun b => b.toNat - 0x30)

/-- What follows the digits that a byte sequence begins with. -/
def afterDigits (bs : List UInt8) : List UInt8 :=
  bs.dropWhile isDigit

/-- The token for a numeral that stops where a digit has to stand. -/
def Token.digitMissing (rest : List UInt8) : Token :=
  .broken .malformed (if rest.isEmpty then .unfinished else .malformed)

/-- Reads an exponent, after its mark. -/
def Token.scanExponent (n : Numeral) (bs : List UInt8) : Token × List UInt8 :=
  let (negative, bs) := match bs with
    | 0x2B :: rest => (false, rest)
    | 0x2D :: rest => (true, rest)
    | _ => (false, bs)
  let ds := digits bs
  if ds.isEmpty then (.digitMissing bs, [])
  else
    let e : Int := ofDigits ds
    (.number { n with exponent := some (if negative then -e else e) }, afterDigits bs)

/-- Reads what may follow the digits before the point and those after it. -/
def Token.scanMark (n : Numeral) : List UInt8 → Token × List UInt8
  | 0x65 :: rest => scanExponent n rest
  | 0x45 :: rest => scanExponent n rest
  | rest => (.number n, rest)

/-- Reads what may follow the digits before the point. -/
def Token.scanPoint (n : Numeral) : List UInt8 → Token × List UInt8
  | 0x2E :: rest =>
    let ds := digits rest
    if ds.isEmpty then (.digitMissing rest, [])
    else scanMark { n with fraction := ds } (afterDigits rest)
  | rest => scanMark n rest

/-- Reads a numeral from its first digit. Only a zero that stands alone begins with a zero. -/
def Token.scanNumeral (negative : Bool) (first : UInt8) (rest : List UInt8) : Token × List UInt8 :=
  if first = 0x30 then
    if (digits rest).isEmpty then scanPoint ⟨negative, [0], [], none⟩ rest
    else (.broken .malformed .malformed, [])
  else if isDigit first then
    scanPoint ⟨negative, (first.toNat - 0x30) :: digits rest, [], none⟩ (afterDigits rest)
  else (.broken .malformed .malformed, [])

/-- Reads a numeral after a minus sign. -/
def Token.scanNegative : List UInt8 → Token × List UInt8
  | [] => (.broken .malformed .unfinished, [])
  | first :: rest => scanNumeral true first rest

theorem length_afterDigits_le (bs : List UInt8) : (afterDigits bs).length ≤ bs.length := by
  unfold afterDigits
  exact (List.dropWhile_sublist _).length_le

theorem Token.length_scanExponent_le (n : Numeral) (bs : List UInt8) :
    (Token.scanExponent n bs).2.length ≤ bs.length := by
  unfold Token.scanExponent
  split
  split <;> simp <;> grind [length_afterDigits_le]

theorem Token.length_scanMark_le (n : Numeral) (bs : List UInt8) :
    (Token.scanMark n bs).2.length ≤ bs.length := by
  unfold Token.scanMark
  split <;> simp <;> grind [Token.length_scanExponent_le]

theorem Token.length_scanPoint_le (n : Numeral) (bs : List UInt8) :
    (Token.scanPoint n bs).2.length ≤ bs.length := by
  unfold Token.scanPoint
  split
  · dsimp only
    split <;> simp
    grind [Token.length_scanMark_le, length_afterDigits_le]
  · exact Token.length_scanMark_le _ _

theorem Token.length_scanNumeral_le (negative : Bool) (first : UInt8) (rest : List UInt8) :
    (Token.scanNumeral negative first rest).2.length ≤ rest.length := by
  unfold Token.scanNumeral
  grind [Token.length_scanPoint_le, length_afterDigits_le]

theorem Token.length_scanNegative_le (bs : List UInt8) :
    (Token.scanNegative bs).2.length ≤ bs.length := by
  unfold Token.scanNegative
  split
  · simp
  · exact Nat.le_succ_of_le (Token.length_scanNumeral_le _ _ _)

/-! ## All tokens -/

/-- Whether the byte may stand between tokens. -/
def isSpace (b : UInt8) : Bool :=
  b == 0x20 || b == 0x0A || b == 0x0D || b == 0x09

/-- Reads the rest of a word. -/
def Token.scanWord (token : Token) : List UInt8 → List UInt8 → Token × List UInt8
  | [], rest => (token, rest)
  | _ :: _, [] => (.broken .unfinished .unfinished, [])
  | w :: ws, b :: rest =>
    if w = b then scanWord token ws rest else (.broken .malformed .malformed, [])

theorem Token.length_scanWord_le (token : Token) (ws bs : List UInt8) :
    (Token.scanWord token ws bs).2.length ≤ bs.length := by
  fun_induction Token.scanWord token ws bs <;> simp_all
  omega

/-- Reads the token that begins with the byte `b`, with what follows it. -/
def Token.scan (b : UInt8) (rest : List UInt8) : Token × List UInt8 :=
  match b with
  | 0x5B => (.openArray, rest)
  | 0x5D => (.closeArray, rest)
  | 0x7B => (.openObject, rest)
  | 0x7D => (.closeObject, rest)
  | 0x2C => (.comma, rest)
  | 0x3A => (.colon, rest)
  | 0x22 => let (t, rest) := Quoted.scan [] rest; (.text t, rest)
  | 0x2D => scanNegative rest
  | 0x6E => scanWord .null [0x75, 0x6C, 0x6C] rest
  | 0x74 => scanWord (.bool true) [0x72, 0x75, 0x65] rest
  | 0x66 => scanWord (.bool false) [0x61, 0x6C, 0x73, 0x65] rest
  | _ => scanNumeral false b rest

theorem Token.length_scan_le (b : UInt8) (rest : List UInt8) :
    (Token.scan b rest).2.length ≤ rest.length := by
  unfold Token.scan
  split
  all_goals first
    | exact Nat.le_refl _
    | exact Quoted.length_scan_le _ _
    | exact Token.length_scanNegative_le _
    | exact Token.length_scanWord_le _ _ _
    | exact Token.length_scanNumeral_le _ _ _

/-- The tokens of a text, after those in `done`, which come last first. -/
def Token.allFrom (done : List Token) (bs : List UInt8) : List Token :=
  match bs with
  | [] => done.reverse
  | b :: rest =>
    if isSpace b then allFrom done rest
    else
      let token := Token.scan b rest
      allFrom (token.1 :: done) token.2
termination_by bs.length
decreasing_by
  all_goals grind [Token.length_scan_le]

/-- The tokens of a text. -/
def Token.all (bs : List UInt8) : List Token :=
  allFrom [] bs

end EventIntake.Json
