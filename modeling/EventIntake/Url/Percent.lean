import EventIntake.Text.Utf8

/-!
# Percent encoding

A character that may not stand in a part of a URL is written byte by byte, each as a percent sign
and two hexadecimal digits.
-/

namespace EventIntake.Url

open EventIntake.Text (Utf8.encodeChar)

/-- A byte as a percent sign and two digits. -/
def percentByte (b : UInt8) : List Char :=
  ['%', (Nat.digitChar (b.toNat / 16)).toUpper, (Nat.digitChar (b.toNat % 16)).toUpper]

/-- A text with the characters of a set, and those that are not ASCII, written byte by byte. -/
def percentEncode (escaped : Char → Bool) (cs : List Char) : List Char :=
  cs.flatMap fun c =>
    if c.toNat < 0x80 && !escaped c then [c] else (Utf8.encodeChar c).flatMap percentByte

/-- The controls, which are escaped everywhere. -/
def isControl (c : Char) : Bool :=
  c < ' ' || c == '\x7f'

/-- The characters that are escaped in a path. -/
def isEscapedInPath (c : Char) : Bool :=
  isControl c || " \x22<>\x60#?^\x7b\x7d".contains c

end EventIntake.Url
