import EventIntake.Text.Blank
import EventIntake.Text.Form

/-!
# Credentials

Where a request may carry the key of a project: in its query, or in a header of the form
`Sentry sentry_key=…, sentry_version=7`. The query wins, and of the two headers the first that is
there.
-/

namespace EventIntake

/-- The parts of a request that may carry a key. -/
structure Credentials where
  query : Option (List Char)
  /-- the header that shadows the common one -/
  sentryAuth : Option (List Char)
  authorization : Option (List Char)
  deriving DecidableEq, Repr, Inhabited

namespace Credentials

/-- The names under which a key is given. Of several in a header, the first of these names wins. -/
def keyNames : List (List Char) :=
  ["sentry_key".toList, "glitchtip_key".toList]

/-- The value of the first pair of a query with the name of a key. -/
def keyOfQuery? (query : List Char) : Option (List Char) :=
  ((Text.Form.pairs (query.dropWhile (· == '?'))).find? fun pair => keyNames.contains pair.1).map (·.2)

/-- The parameters of a header, without the scheme that may stand before them. -/
def headerParameters (header : List Char) : List Char :=
  let header := Text.trim header
  match header.dropWhile (!Text.isBlank ·) with
  | _ :: rest => if (header.takeWhile (!Text.isBlank ·)).contains '=' then header else rest
  | [] => header

/-- A parameter as name and value, without the blanks around them. -/
def parameter? (item : List Char) : Option (List Char × List Char) :=
  match item.dropWhile (· != '=') with
  | _ :: value => some (Text.trim (item.takeWhile (· != '=')), Text.trim value)
  | [] => none

/-- The value of a parameter of a header with the name of a key. -/
def keyOfHeader? (header : List Char) : Option (List Char) :=
  let parameters := ((headerParameters header).splitOn ',').filterMap parameter?
  keyNames.findSome? fun name => (parameters.find? (·.1 == name)).map (·.2)

/-- The key that a request carries, as it is written there. -/
def key? (c : Credentials) : Option (List Char) :=
  (c.query.bind keyOfQuery?).or ((c.sentryAuth.or c.authorization).bind keyOfHeader?)

end Credentials

end EventIntake
