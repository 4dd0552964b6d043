import EventIntake.Analysis.Language
import EventIntake.SearchVector.Basic
import EventIntake.Text.Alphanumeric
import EventIntake.Text.Blank
import EventIntake.Text.Lowercase
import EventIntake.Text.Utf8

/-!
# Analysis profiles

A profile turns a text into a search vector. The words of a text are its longest runs of letters and
digits, numbered from 1. A word that is too long is left out, but keeps its number. The others are put
in lower case, stop words are left out, and the rest is stemmed.
-/

namespace EventIntake

namespace Analysis

/-- The words read so far, last first, and the letters of the word that is being read, last first. -/
structure Reading where
  words : List (List Char)
  letters : List Char

/-- Ends the word that is being read. -/
def Reading.endWord (r : Reading) : List (List Char) :=
  if r.letters.isEmpty then r.words else r.letters.reverse :: r.words

/-- Reads one more character. -/
def Reading.next (r : Reading) (c : Char) : Reading :=
  if Text.isAlphanumeric c then ⟨r.words, c :: r.letters⟩ else ⟨r.endWord, []⟩

/-- The words of a text. -/
def words (cs : List Char) : List (List Char) :=
  (cs.foldl Reading.next ⟨[], []⟩).endWord.reverse

end Analysis

/-- How the words of a text become lexemes. -/
structure Profile where
  /-- whether a word in lower case is left out -/
  stop : String → Bool
  /-- the lexeme of a word in lower case -/
  stem : String → String

namespace Profile

/-- The lexeme of a word, if it is not left out. -/
def lexeme? (p : Profile) (word : List Char) : Option String :=
  if maxLexemeBytes < Text.Utf8.size word then none
  else
    let lowered := String.ofList (Text.lower word)
    if p.stop lowered then none else some (p.stem lowered)

/-- The lexemes of a text with their places. -/
def lexemes (p : Profile) (cs : List Char) : List (String × Nat) :=
  ((Analysis.words cs).zipIdx 1).filterMap fun (word, place) =>
    (p.lexeme? word).map fun lexeme => (lexeme, place)

/-- The search vector of a text. -/
def toVector (p : Profile) (cs : List Char) : SearchVector :=
  .ofTokens (p.lexemes cs)

end Profile

/-! ## Named profiles -/

/-- The name of a profile: `simple`, or a language. -/
inductive Configuration
  | simple
  | language (l : Language)
  deriving DecidableEq, Repr, Inhabited

namespace Configuration

/-- The configuration that is used where none is named. -/
def standard : Configuration :=
  .language .english

/-- The name of a configuration. -/
def name : Configuration → String
  | simple => "simple"
  | language l => l.name

/-- All configurations. -/
def all : List Configuration :=
  simple :: Language.all.map language

/-- A text without the blanks around it, its ASCII letters in lower case. -/
def plainName (s : String) : String :=
  String.ofList ((Text.trim s.toList).map Char.toLower)

/-- The configuration with a name, written in upper or lower case and with blanks around it or not. -/
def ofName? (s : String) : Option Configuration :=
  all.find? (·.name == plainName s)

/-- What is said about a name that no configuration has. -/
def unknownMessage (s : String) : String :=
  "unknown text search configuration: " ++ s

/-- The profile of a configuration. `simple` keeps every word as it is. -/
def profile : Configuration → Profile
  | simple => ⟨fun _ => false, id⟩
  | language l => ⟨l.stopWords.contains, l.stem⟩

end Configuration

end EventIntake
