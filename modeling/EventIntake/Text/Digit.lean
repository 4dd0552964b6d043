/-!
# Digits

A hexadecimal digit and the characters that stand for it, one in each case, and numbers that are
written in the digits of a base. The digits of a base up to sixteen are the first hexadecimal ones.
-/

namespace EventIntake

/-- A hexadecimal digit. -/
abbrev HexDigit := Fin 16

namespace HexDigit

/-- The digit that a character stands for. -/
def ofChar? (c : Char) : Option HexDigit :=
  let n := c.toNat
  if h : 48 ≤ n ∧ n ≤ 57 then some ⟨n - 48, by omega⟩
  else if h : 97 ≤ n ∧ n ≤ 102 then some ⟨n - 87, by omega⟩
  else if h : 65 ≤ n ∧ n ≤ 70 then some ⟨n - 55, by omega⟩
  else none

/-- The digit that a byte of ASCII stands for. -/
def ofByte? (b : UInt8) : Option HexDigit :=
  ofChar? (Char.ofNat b.toNat)

/-- The character of a digit, in lower case. -/
def toChar (d : HexDigit) : Char :=
  Char.ofNat (if d.val < 10 then 48 + d.val else 87 + d.val)

end HexDigit

namespace Text

/-- The number that is written in some digits of a base, if they are digits of it. No digits are the
number zero. -/
def numberIn? (base : Nat) (cs : List Char) : Option Nat :=
  cs.foldlM (fun n c =>
    match HexDigit.ofChar? c with
    | some d => if d.val < base then some (n * base + d.val) else none
    | none => none) 0

end Text

end EventIntake
