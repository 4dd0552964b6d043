import EventIntake.Text.Quoted

/-!
# Throttle states

The throttle rates of an organization and a project, and their compact text. A text without rates
means that both are 0.
-/

namespace EventIntake

/-- The rates that were in force when an event was throttled. -/
structure ThrottleState where
  organizationRate : UInt8
  projectRate : UInt8
  deriving DecidableEq, Repr, Inhabited

namespace ThrottleState

/-- A state as a text. -/
def text (s : ThrottleState) : String :=
  "t:" ++ toString s.organizationRate.toNat ++ ":" ++ toString s.projectRate.toNat

/-- The rate with one digit more, if the character is a digit and the rate does not get greater than
255. -/
def addDigit (rate : UInt8) (c : Char) : Option UInt8 :=
  if c.isDigit then
    let n := 10 * rate.toNat + (c.toNat - '0'.toNat)
    if n ≤ 255 then some n.toUInt8 else none
  else none

/-- The rate that digits spell, if there are any, read digit by digit. -/
def rateOfDigits? (digits : List Char) : Option UInt8 :=
  if digits.isEmpty then none else digits.foldlM addDigit 0

/-- Reads a rate: digits, perhaps after a plus sign. -/
def parseRate : List Char → Option UInt8
  | '+' :: digits => rateOfDigits? digits
  | digits => rateOfDigits? digits

/-- Reads a state. -/
def parse (s : String) : Option ThrottleState :=
  match s.toList.splitOn ':' with
  | [['t']] => some ⟨0, 0⟩
  | [['t'], organization, project] => do return ⟨← parseRate organization, ← parseRate project⟩
  | _ => none

/-- What is said about a text that is no throttle state. -/
def invalidMessage (s : String) : String :=
  "invalid throttle state: " ++ String.ofList (Text.quoted s.toList)

end ThrottleState

end EventIntake
