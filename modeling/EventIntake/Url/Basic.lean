import EventIntake.Url.Host
import EventIntake.Url.Path

/-!
# URLs

Reading a URL as browsers do. Blanks around it and line breaks in it are passed over, and many
spellings of one place give one URL. Only what tells the place is kept: the credentials, the query
and the fragment decide whether a text is a URL, and are dropped.
-/

namespace EventIntake

/-- A place on the net. -/
structure Url where
  scheme : List Char
  host : Option Url.Host
  /-- the port, unless it is the one that the scheme means anyway -/
  port : Option Nat
  path : List Char

namespace Url

/-- Whether a character is passed over at both ends of a URL. -/
def isOuterBlank (c : Char) : Bool :=
  c ≤ ' '

/-- Whether a character is passed over anywhere in a URL. -/
def isInnerBlank (c : Char) : Bool :=
  c == '\t' || c == '\n' || c == '\r'

/-- The characters of a URL that count. -/
def significant (cs : List Char) : List Char :=
  let cs := cs.dropWhile isOuterBlank
  (cs.reverse.dropWhile isOuterBlank).reverse.filter (!isInnerBlank ·)

/-- Whether a query or a fragment begins with a character. -/
def beginsQuery (c : Char) : Bool :=
  c == '?' || c == '#'

/-- Whether a character may occur in a scheme. -/
def isSchemeChar (c : Char) : Bool :=
  c.isAlphanum || c == '+' || c == '-' || c == '.'

/-- The scheme of a URL in lower case, and what follows its colon. -/
def splitScheme? (cs : List Char) : Option (List Char × List Char) :=
  match cs.takeWhile isSchemeChar, cs.dropWhile isSchemeChar with
  | first :: others, ':' :: rest =>
    if first.isAlpha then some ((first :: others).map Char.toLower, rest) else none
  | _, _ => none

/-! ## The authority -/

/-- A text up to its last at sign, if it has one, and what follows. -/
def splitCredentials (authority : List Char) : Option (List Char) × List Char :=
  if authority.contains '@' then
    let host := (authority.reverse.takeWhile (· != '@')).reverse
    (some (authority.take (authority.length - host.length - 1)), host)
  else (none, authority)

/-- The characters before the first colon that is not in brackets, and the rest from it on; `taken`
holds those before, last first. -/
def splitHost (inBrackets : Bool) (taken : List Char) : List Char → List Char × List Char
  | [] => (taken.reverse, [])
  | c :: rest =>
    if c == ':' && !inBrackets then (taken.reverse, c :: rest)
    else splitHost (c == '[' || inBrackets && c != ']') (c :: taken) rest

/-- Reads a port and what follows it. Nothing but a path may follow. -/
def readPort? (cs : List Char) : Option (Option Nat × List Char) := do
  let digits := cs.takeWhile Char.isDigit
  let rest := cs.dropWhile Char.isDigit
  let port ← Text.numberIn? 10 digits
  if port < UInt16.size && (rest.isEmpty || rest.head? == some '\\') then
    some (if digits.isEmpty then none else some port, rest)
  else none

/-- What a URL says after two slashes. -/
structure Place where
  host : Option Host
  port : Option Nat
  /-- the text of the path -/
  rest : List Char

/-- Reads the host and the port at the beginning of a text, which holds no separators except ones
that belong to the path. -/
def readHost? (kind : SchemeKind) (text : List Char) : Option Place := do
  let (name, after) := splitHost false [] text
  let host ← match kind with
    | .other => Host.ofOpaque? name
    | _ => if name.isEmpty then none else some <$> Host.ofDomain? name
  match after with
  | [] => some ⟨host, none, []⟩
  | _ :: port =>
    if host.isNone then none
    else
      let (port, rest) ← readPort? port
      some ⟨host, if port.any fun p => kind == .web p then none else port, rest⟩

/-- Reads the authority of a URL and what follows it. Credentials need a host; `queried` says whether
a query or a fragment follows the text. -/
def readPlace? (kind : SchemeKind) (queried : Bool) (text : List Char) : Option Place := do
  let authority := text.takeWhile (!kind.separates ·)
  let path := text.dropWhile (!kind.separates ·)
  let (credentials, hostText) := splitCredentials authority
  if credentials == some [] && hostText.isEmpty && (queried || !path.isEmpty) then none
  else
    let place ← readHost? kind hostText
    if place.host.isNone && credentials.any (fun c => c != [] && c != [':']) then none
    else some { place with rest := place.rest ++ path }

/-! ## The schemes -/

/-- The path of a URL with an authority. -/
def placePath (kind : SchemeKind) (text : List Char) : List Char :=
  match kind, text with
  | .other, [] => []
  | _, [] => (Path.ofPieces kind []).path
  | _, c :: rest => (Path.ofPieces kind (if kind.separates c then rest else text)).path

/-- Reads a URL after two slashes, or as many as there are in a scheme that browsers know. -/
def ofPlace? (scheme : List Char) (kind : SchemeKind) (queried : Bool) (text : List Char) :
    Option Url := do
  let place ← readPlace? kind queried text
  return ⟨scheme, place.host, place.port, placePath kind place.rest⟩

/-- Reads the host of a file URL, and the text of its path. The letter of a drive is no host, and the
machine itself is none either. -/
def readFileHost? (text : List Char) : Option (Option Host × List Char) :=
  let name := text.takeWhile (!SchemeKind.file.separates ·)
  let rest := text.dropWhile (!SchemeKind.file.separates ·)
  if Path.isDrive name then some (none, text)
  else if name.isEmpty then some (none, rest)
  else do
    let host ← Host.ofDomain? name
    return (if host = .name "localhost".toList then none else some host, rest)

/-- Reads a file URL after its scheme. A host is there only after two slashes, and a slash that comes
before the path is the one the path begins with. -/
def ofFile? (scheme text : List Char) : Option Url := do
  let separates := SchemeKind.file.separates
  let (host, path) ← match text.takeWhile separates with
    | [] => some (none, text)
    | [_] => some (none, text.drop 1)
    | _ => (readFileHost? (text.drop 2)).map fun (host, rest) =>
      (host, if host.isSome then rest.drop 1 else rest)
  let draft := Path.ofPieces .file path
  return ⟨scheme, if draft.hasDrive then none else host, none, draft.path⟩

/-- Reads a URL of any other scheme after the scheme. -/
def ofOther? (scheme : List Char) (queried : Bool) (text : List Char) : Option Url :=
  match text with
  | '/' :: '/' :: rest => ofPlace? scheme .other queried rest
  | '/' :: rest => some ⟨scheme, none, none, (Path.ofPieces .other rest).path⟩
  | _ => some ⟨scheme, none, none, percentEncode isControl text⟩

/-- Reads a URL. -/
def parse? (cs : List Char) : Option Url := do
  let cs := significant cs
  let queried := cs.any beginsQuery
  let (scheme, rest) ← splitScheme? (cs.takeWhile (!beginsQuery ·))
  match SchemeKind.ofScheme scheme with
  | .file => ofFile? scheme rest
  | .web port =>
    ofPlace? scheme (.web port) queried (rest.dropWhile (SchemeKind.web port).separates)
  | .other => ofOther? scheme queried rest

end Url

end EventIntake
