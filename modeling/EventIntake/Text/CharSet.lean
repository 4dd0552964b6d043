/-!
# Sets of characters

A large set of characters as the sorted list of the code points at which membership changes: the
first is the least member, the second the first after it that is no member, and so on. A character
is a member if an odd number of changes come up to it.
-/

namespace EventIntake.Text

/-- A set of characters. -/
structure CharSet where
  /-- the code points at which membership changes, in order -/
  changes : Array Nat

/-- How many of the changes up to `high` come up to `n`, if those before `low` do. -/
def CharSet.countFrom (s : CharSet) (n low high : Nat) : Nat :=
  if low < high then
    let middle := (low + high) / 2
    if s.changes[middle]?.any (· ≤ n) then s.countFrom n (middle + 1) high
    else s.countFrom n low middle
  else low
termination_by high - low

/-- Whether the character is a member. -/
def CharSet.contains (s : CharSet) (c : Char) : Bool :=
  s.countFrom c.toNat 0 s.changes.size % 2 == 1

end EventIntake.Text
