/-!
# Numerals

A number as it is written: sign, digits and exponent. A numeral without point and exponent stands
for an integer if that fits into 64 bits; any other stands for a double, if it is not too large for
one. The value of a double is never needed here, only whether there is one.
-/

namespace EventIntake.Json

/-- A number as it is written. -/
structure Numeral where
  /-- whether a minus sign stands in front -/
  negative : Bool
  /-- the digits before the point -/
  whole : List Nat
  /-- the digits after the point; none if there is no point -/
  fraction : List Nat
  /-- what stands after the exponent mark, if there is one -/
  exponent : Option Int
  deriving DecidableEq, Repr, Inhabited

/-- The number that a list of decimal digits stands for. -/
def ofDigits (digits : List Nat) : Nat :=
  digits.foldl (fun n d => n * 10 + d) 0

namespace Numeral

/-- The integer that the numeral stands for: it has neither point nor exponent, and fits into 64
bits, signed if it is negative. A negative zero is no integer. -/
def integer? (n : Numeral) : Option Int :=
  if n.fraction.isEmpty && n.exponent.isNone && n.whole.length ≤ 20 then
    let v := ofDigits n.whole
    if n.negative then
      if 0 < v ∧ v ≤ Nat.pow 2 63 then some (-(v : Int)) else none
    else if v < UInt64.size then some v else none
  else none

/-- The leading digits whose value still fits into 64 bits, as that value, with the count of the
digits left out. -/
def leading (digits : List Nat) : Nat × Nat :=
  digits.foldl (fun (v, left) d =>
    if left = 0 ∧ v * 10 + d < UInt64.size then (v * 10 + d, 0) else (v, left + 1)) (0, 0)

/-- Rounds to the 53 bits of a double's significand; a tie goes to the even neighbour. -/
def roundToDouble (v : Nat) : Nat :=
  let unit := Nat.pow 2 (Nat.log2 v - 52)
  let q := v / unit
  let r := v % unit
  if 2 * r < unit ∨ (2 * r = unit ∧ q % 2 = 0) then q * unit else (q + 1) * unit

/-- Whether the numeral is beyond the greatest double. The leading digits and the power of ten are
each rounded to a double before they are multiplied. -/
def tooLarge (n : Numeral) : Bool :=
  let (significand, left) := leading (n.whole ++ n.fraction)
  let power : Int := n.exponent.getD 0 + left - n.fraction.length
  if significand = 0 ∨ power ≤ 0 then false
  else if 308 < power then true
  else
    Nat.pow 2 1024 - Nat.pow 2 970 ≤
      roundToDouble significand * roundToDouble (Nat.pow 10 power.toNat)

/-- The numeral in writing. -/
def text (n : Numeral) : String :=
  let digits (ds : List Nat) : String := String.ofList (ds.map Nat.digitChar)
  (if n.negative then "-" else "") ++ digits n.whole
    ++ (if n.fraction.isEmpty then "" else "." ++ digits n.fraction)
    ++ (match n.exponent with | none => "" | some e => "e" ++ toString e)

end Numeral

end EventIntake.Json
