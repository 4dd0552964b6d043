import EventIntake.Text.Digit

/-!
# Addresses

Numeric hosts. A version 4 address is written as up to four numbers between dots, each in decimal,
octal or hexadecimal; the last one fills all bytes that the others leave. A version 6 address is
written as eight pieces between colons, where one run of zeros may be left out and the last two
pieces may be written as a version 4 address.
-/

namespace EventIntake.Url

open Text (numberIn?)

/-! ## Version 4 -/

/-- The value of one number of an address. -/
def ipv4Number? (cs : List Char) : Option Nat :=
  match cs with
  | [] => none
  | '0' :: 'x' :: digits => numberIn? 16 digits
  | '0' :: 'X' :: digits => numberIn? 16 digits
  | '0' :: c :: digits => numberIn? 8 (c :: digits)
  | _ => numberIn? 10 cs

/-- The pieces of a host between dots, without an empty one at its end. -/
def ipv4Pieces (host : List Char) : List (List Char) :=
  let pieces := host.splitOn '.'
  if pieces.getLast? = some [] then pieces.dropLast else pieces

/-- Whether a host has to be an address because its last piece is a number. -/
def endsInNumber (host : List Char) : Bool :=
  match (ipv4Pieces host).getLast? with
  | some piece => (!piece.isEmpty && piece.all Char.isDigit) || (ipv4Number? piece).isSome
  | none => false

/-- The version 4 address that a host is. -/
def ipv4? (host : List Char) : Option Nat := do
  let pieces := ipv4Pieces host
  if pieces.length > 4 then none
  let numbers ← pieces.mapM ipv4Number?
  let last ← numbers.getLast?
  let others := numbers.dropLast
  if others.all (· ≤ 255) && last < Nat.pow 256 (4 - others.length) then
    some ((others.foldl (· * 256 + ·) 0) * Nat.pow 256 (4 - others.length) + last)
  else none

/-- The text of a version 4 address. -/
def ipv4Text (n : Nat) : List Char :=
  ['.'].intercalate
    ([n / 256 / 256 / 256, n / 256 / 256 % 256, n / 256 % 256, n % 256].map (Nat.toDigits 10))

/-! ## Version 6 -/

/-- The pieces of a version 6 address as far as they have been read. -/
structure Ipv6Pieces where
  /-- the pieces, last first -/
  pieces : List Nat
  /-- how many of them come before the zeros that were left out, if that place has been read -/
  gap : Option Nat

/-- How many pieces have been read, where left out zeros are at least one. -/
def Ipv6Pieces.count (s : Ipv6Pieces) : Nat :=
  s.pieces.length + (if s.gap.isSome then 1 else 0)

/-- The value of a decimal number below 256, which begins with a zero only if it is one. -/
def byteOf? (cs : List Char) : Option Nat :=
  match cs with
  | [] => none
  | ['0'] => some 0
  | '0' :: _ => none
  | _ => (numberIn? 10 cs).filter (· ≤ 255)

/-- Reads the version 4 address at the end. -/
def Ipv6Pieces.addIpv4? (s : Ipv6Pieces) (cs : List Char) : Option Ipv6Pieces := do
  match ← (cs.splitOn '.').mapM byteOf? with
  | [a, b, c, d] =>
    if s.count ≤ 6 then some { s with pieces := (c * 256 + d) :: (a * 256 + b) :: s.pieces } else none
  | _ => none

/-- Reads the pieces that follow. -/
def Ipv6Pieces.read? (s : Ipv6Pieces) (cs : List Char) : Option Ipv6Pieces :=
  match cs with
  | [] => some s
  | ':' :: rest =>
    if s.count < 8 && s.gap.isNone then { s with gap := some s.pieces.length }.read? rest else none
  | c :: rest =>
    if s.count < 8 then
      let digits := (c :: (rest.take 3)).takeWhile fun c => (HexDigit.ofChar? c).isSome
      match digits, (c :: rest).drop digits.length with
      | [], _ => none
      | _, '.' :: _ => s.addIpv4? (c :: rest)
      | _ :: more, after => do
        let s := { s with pieces := (← numberIn? 16 digits) :: s.pieces }
        match after with
        | [] => some s
        | [':'] => none
        | ':' :: _ => s.read? (rest.drop (more.length + 1))
        | _ => none
    else none
termination_by cs.length
decreasing_by all_goals (simp only [List.length_cons, List.length_drop]; omega)

/-- The eight pieces of a version 6 address. -/
def ipv6? (cs : List Char) : Option (List Nat) := do
  let s ← match cs with
    | ':' :: ':' :: rest => Ipv6Pieces.read? ⟨[], some 0⟩ rest
    | ':' :: _ => none
    | _ => Ipv6Pieces.read? ⟨[], none⟩ cs
  match s.gap with
  | some n =>
    let pieces := s.pieces.reverse
    some (pieces.take n ++ List.replicate (8 - pieces.length) 0 ++ pieces.drop n)
  | none => if s.pieces.length = 8 then some s.pieces.reverse else none

/-- The first of the longest runs of zeros, as its place and its length. -/
def longestZeros (pieces : List Nat) : Nat × Nat :=
  (List.range pieces.length).foldl (fun best i =>
    let length := ((pieces.drop i).takeWhile (· = 0)).length
    if best.2 < length then (i, length) else best) (0, 0)

/-- Some pieces between colons. -/
def ipv6Run (pieces : List Nat) : List Char :=
  [':'].intercalate (pieces.map (Nat.toDigits 16))

/-- The text of a version 6 address. The first of the longest runs of at least two zeros is left
out. -/
def ipv6Text (pieces : List Nat) : List Char :=
  let (start, length) := longestZeros pieces
  if length < 2 then ipv6Run pieces
  else ipv6Run (pieces.take start) ++ [':', ':'] ++ ipv6Run (pieces.drop (start + length))

end EventIntake.Url
