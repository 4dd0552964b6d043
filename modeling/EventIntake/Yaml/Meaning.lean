import EventIntake.Json.Numeral
import EventIntake.Yaml.Node

/-!
# Meaning of scalars

What a scalar stands for. One that is written without quotes is a null, a truth value or a number, if
it has the form of one; anything else is a text.
-/

namespace EventIntake.Yaml

open Json (Numeral)

/-- What a scalar stands for. -/
inductive Meaning where
  | null
  | bool (b : Bool)
  /-- a number of 64 bits -/
  | integer (n : Int)
  /-- a number of more than 64 and at most 128 bits -/
  | wide
  | decimal
  | text (cs : List Char)
  deriving DecidableEq

/-- The forms of null. -/
def nulls : List String := ["", "~", "null", "Null", "NULL"]

/-- The forms of the truth values. -/
def bools : List (String × Bool) :=
  [("true", true), ("True", true), ("TRUE", true), ("false", false), ("False", false),
    ("FALSE", false)]

/-- The value of some digits in a base. -/
def digitsIn? (base : Nat) (cs : List Char) : Option Nat :=
  if cs.isEmpty then none else Text.numberIn? base cs

/-- The bases that are marked, with their marks. -/
def basedDigits? : List Char → Option Nat
  | '0' :: 'x' :: digits => digitsIn? 16 digits
  | '0' :: 'o' :: digits => digitsIn? 8 digits
  | '0' :: 'b' :: digits => digitsIn? 2 digits
  | _ => none

/-- Whether a text is digits after a zero, and so is no number. -/
def isPadded : List Char → Bool
  | '0' :: c :: rest => (c :: rest).all Char.isDigit
  | _ => false

/-- The number that a text without sign is. -/
def magnitude? (cs : List Char) : Option Nat :=
  basedDigits? cs <|> if isPadded cs then none else digitsIn? 10 cs

/-- The sign of a number, whether it is negative, and what follows it. -/
def splitSign : List Char → Bool × List Char
  | '+' :: rest => (false, rest)
  | '-' :: rest => (true, rest)
  | cs => (false, cs)

/-- The integer that a text is. -/
def integer? (cs : List Char) : Option Int :=
  let (negative, digits) := splitSign cs
  (magnitude? digits).map fun n => if negative then -(n : Int) else n

/-- Whether a text is an exponent, or none at all. -/
def exponent? : List Char → Option (Option Int)
  | [] => some none
  | e :: cs =>
    let (negative, digits) := splitSign cs
    if e == 'e' || e == 'E' then
      (digitsIn? 10 digits).map fun n => some (if negative then -(n : Int) else n)
    else none

/-- Whether a text is a decimal number that can be represented, or one of the values that are no
numbers. -/
def isDecimal (cs : List Char) : Bool :=
  let (negative, digits) := splitSign cs
  let whole := digits.takeWhile Char.isDigit
  let rest := digits.dropWhile Char.isDigit
  let (fraction, rest) := match rest with
    | '.' :: rest => (rest.takeWhile Char.isDigit, rest.dropWhile Char.isDigit)
    | _ => ([], rest)
  let values := fun (ds : List Char) => ds.map fun c => c.toNat - '0'.toNat
  [".inf", ".Inf", ".INF"].contains (String.ofList digits) ||
    [".nan", ".NaN", ".NAN"].contains (String.ofList cs) ||
    !isPadded digits && !(whole.isEmpty && fraction.isEmpty) &&
      match exponent? rest with
      | some e => !(Numeral.mk negative (values whole) (values fraction) e).tooLarge
      | none => false

/-- An integer of 64 bits with a sign is less than this. -/
def signedBound : Nat := Nat.pow 2 63

/-- An integer of 128 bits with a sign is less than this. -/
def wideBound : Nat := Nat.pow 2 127

/-- What a scalar stands for. -/
def Scalar.meaning (s : Scalar) : Meaning :=
  let text := String.ofList s.text
  if !s.plain then .text s.text
  else if nulls.contains text then .null
  else match bools.lookup text with
    | some b => .bool b
    | none =>
      match integer? s.text with
      | some n =>
        if -signedBound ≤ n ∧ n < UInt64.size then .integer n
        else if -wideBound ≤ n ∧ n < 2 * wideBound then .wide
        else .decimal
      | none => if isDecimal s.text then .decimal else .text s.text

/-- What a node stands for, if it is a scalar. -/
def Node.meaning? : Node → Option Meaning
  | .scalar s => some s.meaning
  | _ => none

/-- The characters of a node, if it is a scalar. -/
def Node.text? : Node → Option (List Char)
  | .scalar s => some s.text
  | _ => none

end EventIntake.Yaml
