import EventIntake.Url.Percent

/-!
# Paths

The path of a URL, in which `.` stands for the place itself and `..` for the one above. A file path
may begin with the letter of a drive, which is never left. While a path is put together its
characters come last first.
-/

namespace EventIntake.Url

/-- What a scheme says about the parts of a URL. -/
inductive SchemeKind where
  | file
  /-- a scheme that browsers know, other than `file`, with the port that is left out -/
  | web (port : Nat)
  | other
  deriving DecidableEq

/-- What a scheme says. -/
def SchemeKind.ofScheme (scheme : List Char) : SchemeKind :=
  match String.ofList scheme with
  | "file" => .file
  | "http" => .web 80
  | "https" => .web 443
  | "ws" => .web 80
  | "wss" => .web 443
  | "ftp" => .web 21
  | _ => .other

/-- Whether a character separates the pieces of a path. -/
def SchemeKind.separates (kind : SchemeKind) (c : Char) : Bool :=
  c == '/' || c == '\\' && kind != .other

namespace Path

/-- Whether a piece stands for the place itself. -/
def isDot (piece : List Char) : Bool :=
  ["." , "%2e"].contains (String.ofList (piece.map Char.toLower))

/-- Whether a piece stands for the place above. -/
def isDoubleDot (piece : List Char) : Bool :=
  ["..", ".%2e", "%2e.", "%2e%2e"].contains (String.ofList (piece.map Char.toLower))

/-- Whether a piece is the letter of a drive. -/
def isDrive : List Char → Bool
  | [letter, mark] => letter.isAlpha && (mark == ':' || mark == '|')
  | _ => false

/-- The last piece of a path, which comes last first, and what comes before it. -/
def splitLast (path : List Char) : List Char × List Char :=
  ((path.takeWhile (· != '/')).reverse, path.dropWhile (· != '/'))

/-- The path without the slash at its end, unless the path is only that slash or the piece before it
is the letter of a drive. -/
def dropSlash (path : List Char) : List Char :=
  match path with
  | '/' :: rest =>
    let (piece, before) := splitLast rest
    if before.isEmpty || isDrive piece then path else rest
  | _ => path

/-- The path without its last piece, unless that is the letter of a drive. -/
def dropPiece (kind : SchemeKind) (path : List Char) : List Char :=
  let (piece, before) := splitLast path
  if kind == .file && isDrive piece && piece.getLast? == some ':' then path else before

/-- The path with a slash at its end. -/
def endSlash (path : List Char) : List Char :=
  if path.head? == some '/' then path else '/' :: path

/-- A path that is being put together. -/
structure Draft where
  /-- its characters, last first -/
  path : List Char
  /-- whether the path begins with the letter of a drive, so that there is no host -/
  hasDrive : Bool

/-- Adds a piece; `slashed` says whether a slash follows it. -/
def Draft.add (kind : SchemeKind) (slashed : Bool) (d : Draft) (piece : List Char) : Draft :=
  let piece := percentEncode isEscapedInPath piece
  if isDoubleDot piece then
    let path := dropPiece kind (dropSlash d.path)
    { d with path := if slashed then endSlash path else path }
  else if isDot piece then { d with path := endSlash d.path }
  else
    let slash := if slashed then ['/'] else []
    if kind == .file && d.path == ['/'] && isDrive piece then
      ⟨slash ++ [':'] ++ piece.take 1 ++ ['/'], true⟩
    else { d with path := slash ++ piece.reverse ++ d.path }

/-- The path with the pieces of a text, after the slash it begins with. -/
def ofPieces (kind : SchemeKind) (text : List Char) : Draft :=
  let pieces := text.splitOnP kind.separates
  let d := pieces.dropLast.foldl (Draft.add kind true) ⟨['/'], false⟩
  let d := Draft.add kind false d (pieces.getLast?.getD [])
  let path := d.path.reverse
  { d with path := if kind == .file then '/' :: path.dropWhile (· == '/') else path }

end Path

end EventIntake.Url
