import EventIntake.Event.Basic
import EventIntake.Url.Basic

/-!
# Search text

The short text under which an event's issue is found. It is made of a few fields that tell much, and
each is cut, so that it stays small however large the event is. Credentials, queries and fragments
of URLs are left out.
-/

namespace EventIntake.Event

open EventIntake.Text (Utf8.size Utf8.takeBytes)

/-- How many characters each part may have. -/
def maxPart : Nat := 250

/-- How many characters the name of a file may have. -/
def maxFilename : Nat := 100

/-- How many names of files there may be. -/
def maxFilenames : Nat := 5

/-- How many names of files one exception may give. -/
def maxFrames : Nat := 3

/-- How many exceptions may give names of files. -/
def maxTraces : Nat := 2

/-- How many bytes the whole text may have. -/
def maxSearchText : Nat := 2048

/-! ## URLs -/

/-- The beginning of a URL, up to its query or fragment. -/
def withoutQuery (url : List Char) : List Char :=
  url.takeWhile (!Url.beginsQuery ·)

/-- The scheme, host and port of a URL; nothing, if it has no host. -/
def origin (url : Url) : List Char :=
  match url.host with
  | some host =>
    let port := match url.port with
      | some port => ':' :: Nat.toDigits 10 port
      | none => []
    url.scheme ++ "://".toList ++ host.text ++ port
  | none => []

/-- A URL as `scheme://host:port/path`; what cannot be read as a URL stays as it is. The slash after
a host is kept only where it is written. -/
def simplifyUrl (url : List Char) : List Char :=
  let written := withoutQuery url
  match Url.parse? url with
  | none => written.take maxPart
  | some parsed =>
    let path := if parsed.path = ['/'] ∧ written.getLast? ≠ some '/' then []
      else parsed.path.take maxPart
    (origin parsed ++ path).take maxPart

/-! ## Files -/

/-- The part of a file's name after the last slash, cut. -/
def basename (filename : List Char) : List Char :=
  (filename.reverse.takeWhile (· != '/')).reverse.take maxFilename

/-- The names of the files that an exception came from, innermost first. -/
def traceNames (e : RaisedException) : List (List Char) :=
  let names := (e.frames.getD []).reverse.filterMap fun frame => frame.filename.map basename
  (names.filter (!·.isEmpty)).take maxFrames

/-- The names of the files that some exceptions came from. -/
def basenames (exceptions : List RaisedException) : List (List Char) :=
  let traces := (exceptions.map traceNames).filter (!·.isEmpty)
  (traces.take maxTraces).flatten.take maxFilenames

/-! ## The text -/

/-- The parts of the search text, in order and each once. -/
def searchParts (e : Event) : List (List Char) :=
  let parts := (e.title.map (·.take maxPart)).toList ++ (e.transaction.map (·.take maxPart)).toList ++
    (e.url.map simplifyUrl).toList ++ basenames e.exceptions
  ((parts.filter (!·.isEmpty)).eraseDups).mergeSort fun a b => !b.lex a (· < ·)

/-- The beginning of a text that takes at most `limit` bytes, up to the last blank there is in it. -/
def cutAtBlank (limit : Nat) (text : List Char) : List Char :=
  if Utf8.size text ≤ limit then text
  else
    let cut := Utf8.takeBytes limit text
    match cut.reverse.dropWhile (· != ' ') with
    | _ :: before => before.reverse
    | [] => cut

/-- The text under which an event's issue is found. -/
def searchText (e : Event) : List Char :=
  (cutAtBlank maxSearchText ([' '].intercalate e.searchParts)).filter (· != '\x00')

end EventIntake.Event
