import EventIntake.Text.Blank

/-!
# Instants

A moment in time as the seconds since the start of 1970 and nanoseconds. A leap second continues the
second before it. An instant is written as a date and a time in UTC, with as few groups of three
digits of the fraction as hold it, and read with any offset.

Reading is lenient: blanks may stand between the parts, the year may have a sign and then any number
of digits, other numbers one digit instead of two, and the offset may leave out its colon.
-/

namespace EventIntake

/-- A moment in time. -/
structure Instant where
  /-- the seconds since the start of 1970 -/
  seconds : Int
  /-- the nanoseconds after it; a thousand million or more in a leap second -/
  nanos : Nat
  deriving DecidableEq, Repr, Inhabited

namespace Instant

/-! ## The calendar -/

/-- Whether a year has a 29th of February. -/
def isLeapYear (y : Int) : Bool :=
  y % 4 = 0 && (y % 100 ≠ 0 || y % 400 = 0)

/-- The number of days in a month. -/
def daysInMonth (y : Int) (m : Nat) : Nat :=
  match m with
  | 2 => if isLeapYear y then 29 else 28
  | 4 | 6 | 9 | 11 => 30
  | _ => 31

/-- The days from the start of March of the year 0 to that of a year. -/
def daysBeforeMarch (y : Int) : Int :=
  365 * y + y / 4 - y / 100 + y / 400

/-- The days from the start of 1970 to a date. Years are counted from March. -/
def daysOfDate (y : Int) (m d : Nat) : Int :=
  let marchYear := if m ≤ 2 then y - 1 else y
  let month := (m + 9) % 12
  daysBeforeMarch marchYear + ((153 * month + 2) / 5 + d : Nat) - 719469

/-- The date that comes some days after the start of 1970. -/
def dateOfDays (days : Int) : Int × Nat × Nat :=
  let days := days + 719468
  let era := days / 146097
  let dayOfEra := (days % 146097).toNat
  let yearOfEra := (dayOfEra - dayOfEra / 1460 + dayOfEra / 36524 - dayOfEra / 146096) / 365
  let dayOfYear := dayOfEra - (365 * yearOfEra + yearOfEra / 4 - yearOfEra / 100)
  let month := (5 * dayOfYear + 2) / 153
  let d := dayOfYear - (153 * month + 2) / 5 + 1
  let m := if month < 10 then month + 3 else month - 9
  (yearOfEra + era * 400 + (if m ≤ 2 then 1 else 0), m, d)

/-- The first and the last year that a date may have. -/
def firstYear : Int := -262143

@[inherit_doc firstYear]
def lastYear : Int := 262142

/-- Whether the instant is in a year that a date may have. -/
def inRange (t : Instant) : Bool :=
  let (y, _, _) := dateOfDays (t.seconds / 86400)
  firstYear ≤ y && y ≤ lastYear

/-! ## Writing -/

/-- A number with leading zeros. -/
def padded (width n : Nat) : String :=
  let digits := toString n
  String.ofList (List.replicate (width - digits.length) '0') ++ digits

/-- A year: four digits, or a sign and at least four digits. -/
def yearText (y : Int) : String :=
  if 0 ≤ y ∧ y ≤ 9999 then padded 4 y.toNat
  else (if y < 0 then "-" else "+") ++ padded 4 y.natAbs

/-- The fraction of a second, with its point. -/
def fractionText (nanos : Nat) : String :=
  if nanos = 0 then ""
  else if nanos % 1000000 = 0 then "." ++ padded 3 (nanos / 1000000)
  else if nanos % 1000 = 0 then "." ++ padded 6 (nanos / 1000)
  else "." ++ padded 9 nanos

/-- An instant in UTC. -/
def text (t : Instant) : String :=
  let (y, m, d) := dateOfDays (t.seconds / 86400)
  let second := (t.seconds % 86400).toNat
  let leap := t.nanos / 1000000000
  yearText y ++ "-" ++ padded 2 m ++ "-" ++ padded 2 d ++ "T" ++ padded 2 (second / 3600) ++ ":" ++
    padded 2 (second / 60 % 60) ++ ":" ++ padded 2 (second % 60 + leap) ++
    fractionText (t.nanos % 1000000000) ++ "Z"

/-! ## Reading -/

/-- Whether the character is a decimal digit. -/
def isDigit (c : Char) : Bool :=
  '0' ≤ c && c ≤ '9'

/-- The number that digits spell. -/
def numberOf (digits : List Char) : Nat :=
  digits.foldl (fun n c => 10 * n + (c.toNat - '0'.toNat)) 0

/-- The number of the digits at the start, up to `width` of them and at least one, and the rest. -/
def readNumber (width : Nat) (cs : List Char) : Option (Nat × List Char) :=
  let digits := (cs.take width).takeWhile isDigit
  if digits.isEmpty then none else some (numberOf digits, cs.drop digits.length)

/-- A number of one or two digits in a range, after blanks. -/
def readField (least greatest : Nat) (cs : List Char) : Option (Nat × List Char) := do
  let (n, rest) ← readNumber 2 (Text.trimLeft cs)
  if least ≤ n ∧ n ≤ greatest then return (n, rest) else none

/-- A year, after blanks: up to four digits, or a sign and digits. -/
def readYear (cs : List Char) : Option (Int × List Char) := do
  match Text.trimLeft cs with
  | '-' :: rest =>
    let (n, rest) ← readNumber rest.length rest
    return (-n, rest)
  | '+' :: rest =>
    let (n, rest) ← readNumber rest.length rest
    return (n, rest)
  | cs =>
    let (n, rest) ← readNumber 4 cs
    return (n, rest)

/-- A separator, after blanks. -/
def readMark (mark : Char) (cs : List Char) : Option (List Char) :=
  match Text.trimLeft cs with
  | c :: rest => if c = mark then some rest else none
  | [] => none

/-- The fraction of a second in nanoseconds, 0 if there is none. Digits after the ninth are passed
over. -/
def readFraction : List Char → Option (Nat × List Char)
  | '.' :: cs =>
    let digits := cs.takeWhile isDigit
    if digits.isEmpty then none
    else
      let kept := digits.take 9
      some (numberOf kept * Nat.pow 10 (9 - kept.length), cs.drop digits.length)
  | cs => some (0, cs)

/-- A number of two digits. -/
def readTwoDigits : List Char → Option (Nat × List Char)
  | a :: b :: rest => if isDigit a && isDigit b then some (numberOf [a, b], rest) else none
  | _ => none

/-- The seconds by which a time is ahead of UTC. -/
def readOffset (cs : List Char) : Option (Int × List Char) :=
  match cs with
  | 'Z' :: rest | 'z' :: rest => some (0, rest)
  | sign :: rest =>
    if (cs.take 3).map Char.toUpper = ['U', 'T', 'C'] then some (0, cs.drop 3)
    else if sign = '+' ∨ sign = '-' ∨ sign = '\u2212' then do
      let (hours, rest) ← readTwoDigits rest
      let (minutes, rest) ← readTwoDigits (rest.dropWhile fun c => c == ':' || Text.isBlank c)
      if 60 ≤ minutes ∨ 24 ≤ hours then none
      else
        let seconds : Int := hours * 3600 + minutes * 60
        return (if sign = '+' then seconds else -seconds, rest)
    else none
  | [] => none

/-- Reads an instant. -/
def parse (cs : List Char) : Option Instant := do
  let (y, cs) ← readYear cs
  let (m, cs) ← readField 1 12 (← readMark '-' cs)
  let (d, cs) ← readField 1 31 (← readMark '-' cs)
  let cs ← match cs with
    | c :: rest => if c = 'T' ∨ c = 't' ∨ c = ' ' then some rest else none
    | [] => none
  let (hour, cs) ← readField 0 23 cs
  let (minute, cs) ← readField 0 59 (← readMark ':' cs)
  let (second, cs) ← readField 0 60 (← readMark ':' cs)
  let (nanos, cs) ← readFraction cs
  let (offset, cs) ← readOffset (Text.trimLeft cs)
  if y < firstYear ∨ lastYear < y ∨ daysInMonth y m < d ∨ Text.trimLeft cs ≠ [] then none
  else
    let days := daysOfDate y m d
    let t : Instant :=
      ⟨days * 86400 + (hour * 3600 + minute * 60 + min second 59 : Nat) - offset,
        nanos + if second = 60 then 1000000000 else 0⟩
    if t.inRange then some t else none

end Instant

end EventIntake
