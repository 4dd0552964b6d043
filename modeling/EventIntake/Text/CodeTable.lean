import EventIntake.Text.Digit

/-!
# Tables of characters

A large table that gives some characters a list of code points each, and its written form. The table
is a list of runs in the order of their characters. A run lists the entries of characters that
follow one another, or it says how the entries of many characters go up.

In the written form a run stands between blanks and all its numbers are hexadecimal:
`b2=32,33,20+301` gives U+00B2 the entry 32, U+00B3 the entry 33, and U+00B4 the entry 20, 301;
`41*1a=61` gives 26 characters from U+0041 on the entries 61, 62 and so on;
`100*18/2=101` gives every second character from U+0100 on, 24 in all, the entries 101, 103 and so on;
`300*15:e6` gives 21 characters from U+0300 on the one entry e6.
-/

namespace EventIntake.Text

/-- The entries of a run. -/
inductive CodeEntries where
  /-- one for each character -/
  | listed (entries : Array (List Nat))
  /-- for every character that is a multiple of `step` after the first, `count` in all, `first` -/
  | same (count step first : Nat)
  /-- the same, going up as the characters do -/
  | rising (count step first : Nat)
  deriving Inhabited

/-- A run of characters with their entries. -/
structure CodeRun where
  /-- the first character -/
  start : Nat
  entries : CodeEntries
  deriving Inhabited

/-- The entry of the character that comes `distance` after the first one. -/
def CodeEntries.get? (e : CodeEntries) (distance : Nat) : Option (List Nat) :=
  match e with
  | .listed entries => entries[distance]?
  | .same count step first =>
    if distance % step = 0 ∧ distance / step < count then some [first] else none
  | .rising count step first =>
    if distance % step = 0 ∧ distance / step < count then some [first + distance] else none

/-- A table of characters. -/
structure CodeTable where
  /-- the runs in the order of their characters -/
  runs : Array CodeRun

namespace CodeTable

/-- How many of the runs below `high` begin at `n` or before, if those below `low` do. -/
def countFrom (t : CodeTable) (n low high : Nat) : Nat :=
  if low < high then
    let middle := (low + high) / 2
    if t.runs[middle]?.any (·.start ≤ n) then t.countFrom n (middle + 1) high
    else t.countFrom n low middle
  else low
termination_by high - low

/-- The entry of a code point. -/
def get? (t : CodeTable) (n : Nat) : Option (List Nat) := do
  let run ← t.runs[t.countFrom n 0 t.runs.size - 1]?
  if run.start ≤ n then run.entries.get? (n - run.start) else none

/-! ## The written form -/

/-- The value of a hexadecimal number. -/
def number (s : String) : Nat :=
  (numberIn? 16 s.toList).getD 0

/-- Reads the characters of a run: the first one, their count if it is given, and their step. -/
def readHead (s : String) : Nat × Option Nat × Nat :=
  match s.splitOn "*" with
  | [start, extent] =>
    match extent.splitOn "/" with
    | [count, step] => (number start, some (number count), number step)
    | _ => (number start, some (number extent), 1)
  | _ => (number s, none, 1)

/-- Reads a run. -/
def readRun (s : String) : CodeRun :=
  match s.splitOn ":", s.splitOn "=" with
  | [head, entry], _ =>
    let (start, count, step) := readHead head
    ⟨start, .same (count.getD 1) step (number entry)⟩
  | _, [head, entries] =>
    match readHead head with
    | (start, some count, step) => ⟨start, .rising count step (number entries)⟩
    | (start, none, _) =>
      ⟨start, .listed ((entries.splitOn ",").map fun e => (e.splitOn "+").map number).toArray⟩
  | _, _ => default

/-- Reads a table that is written on some lines. -/
def ofLines (lines : List String) : CodeTable :=
  ⟨(lines.flatMap fun line => (line.splitOn " ").map readRun).toArray⟩

end CodeTable

end EventIntake.Text
