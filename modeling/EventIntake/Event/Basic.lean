/-!
# Events

What is kept of an event that a client reports: the fields that its issue is found by.
-/

namespace EventIntake

/-- A call that was under way. -/
structure Frame where
  /-- the file that the call is in -/
  filename : Option (List Char)
  deriving DecidableEq, Repr, Inhabited

/-- Something that was raised. -/
structure RaisedException where
  /-- the calls that were under way, outermost first, if they are known -/
  frames : Option (List Frame)
  deriving DecidableEq, Repr, Inhabited

/-- An event. -/
structure Event where
  title : Option (List Char)
  transaction : Option (List Char)
  /-- the URL of the request that was being answered -/
  url : Option (List Char)
  exceptions : List RaisedException
  deriving DecidableEq, Repr, Inhabited

/-- The event of which nothing is known. -/
def Event.empty : Event := ⟨none, none, none, []⟩

end EventIntake
