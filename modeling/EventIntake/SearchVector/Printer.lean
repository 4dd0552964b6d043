import EventIntake.SearchVector.Basic

/-!
# Search vectors in writing

The written form that is stored: the lexemes in quotes, separated by single spaces, each followed by
a colon and its positions, if it has any. Inside the quotes a quote and a backslash are written
twice. The weakest weight has no letter.
-/

namespace EventIntake

/-- The letter of a weight; the weakest has none. -/
def Weight.letter? : Weight → Option Char
  | .a => some 'A'
  | .b => some 'B'
  | .c => some 'C'
  | .d => none

/-- A position in writing. -/
def Position.render (p : Position) : List Char :=
  Nat.toDigits 10 p.place ++ p.weight.letter?.toList

/-- A character inside quotes. -/
def renderQuotedChar (c : Char) : List Char :=
  if c = '\x27' ∨ c = '\\' then [c, c] else [c]

namespace Entry

/-- The positions in writing, with the colon in front. -/
def renderPositions : List Position → List Char
  | [] => []
  | p :: ps => ':' :: p.render ++ ps.flatMap (fun q => ',' :: q.render)

/-- An entry in writing. -/
def render (e : Entry) : List Char :=
  '\x27' :: e.lexeme.toList.flatMap renderQuotedChar ++ '\x27' :: renderPositions e.positions

end Entry

/-- A vector in writing, as characters. -/
def SearchVector.render (v : SearchVector) : List Char :=
  [' '].intercalate (v.entries.map Entry.render)

/-- A vector in writing. -/
def SearchVector.text (v : SearchVector) : String :=
  String.ofList v.render

end EventIntake
