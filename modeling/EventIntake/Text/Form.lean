import EventIntake.Text.Digit
import EventIntake.Text.Utf8

/-!
# Form encoding

A list of names and values as one text: pairs are joined by `&`, name and value by `=`, a blank is
written as `+`, and any byte may be written as a percent sign and two hexadecimal digits. A percent
sign that is not followed by digits stands for itself.
-/

namespace EventIntake.Text.Form

/-- The byte that a percent sign and these two digits stand for. -/
def escapedByte? (high low : UInt8) : Option UInt8 := do
  return ((← HexDigit.ofByte? high).val * 16 + (← HexDigit.ofByte? low).val).toUInt8

/-- The bytes with those that are written as percent signs and digits. -/
def percentDecode : List UInt8 → List UInt8
  | 37 :: high :: low :: rest =>
    match escapedByte? high low with
    | some b => b :: percentDecode rest
    | none => 37 :: percentDecode (high :: low :: rest)
  | b :: rest => b :: percentDecode rest
  | [] => []
termination_by bs => bs.length

/-- A name or value, with U+FFFD for each fault in its bytes. -/
def decode (cs : List Char) : List Char :=
  Utf8.decodeLossy (percentDecode (Utf8.encode (cs.map fun c => if c = '+' then ' ' else c)))

/-- The name and the value of a pair; the value is empty if there is no `=`. -/
def splitPair (cs : List Char) : List Char × List Char :=
  match cs.dropWhile (· != '=') with
  | _ :: value => (cs.takeWhile (· != '='), value)
  | [] => (cs, [])

/-- The pairs of a text. Empty pieces are passed over. -/
def pairs (cs : List Char) : List (List Char × List Char) :=
  ((cs.splitOn '&').filter (!·.isEmpty)).map fun piece =>
    let (name, value) := splitPair piece
    (decode name, decode value)

end EventIntake.Text.Form
