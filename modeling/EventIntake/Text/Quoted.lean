import EventIntake.Text.Unprintable

/-!
# Quoted text

A text between quotation marks, with everything that cannot be seen written as an escape.
-/

namespace EventIntake.Text

/-- The digits of a number in base 16. -/
def hexDigits (n : Nat) : List Char :=
  Nat.toDigits 16 n

/-- A character as it is written between quotation marks. -/
def quotedChar (c : Char) : List Char :=
  match c with
  | '\x00' => ['\\', '0']
  | '\t' => ['\\', 't']
  | '\r' => ['\\', 'r']
  | '\n' => ['\\', 'n']
  | '\x22' => ['\\', '\x22']
  | '\\' => ['\\', '\\']
  | c =>
    if isUnprintable c then ['\\', 'u', '\x7b'] ++ hexDigits c.toNat ++ ['\x7d'] else [c]

/-- A text between quotation marks. -/
def quoted (cs : List Char) : List Char :=
  '\x22' :: cs.flatMap quotedChar ++ ['\x22']

end EventIntake.Text
