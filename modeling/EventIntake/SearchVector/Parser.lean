import EventIntake.SearchVector.Basic
import EventIntake.Text.Blank

/-!
# Reading search vectors

The reader takes more than the printer writes. A lexeme may stand without quotes, any character may
be escaped by a backslash, entries may be separated by any blanks and come in any order, and a lexeme
may come more than once. Reading an entry stops at a blank or at the end; whatever else follows a
lexeme and its positions is an error.
-/

namespace EventIntake

/-- Why a text is not a search vector. -/
inductive VectorError where
  /-- a quoted lexeme has no closing quote -/
  | unterminatedQuote
  /-- there is nothing where a lexeme has to stand -/
  | emptyLexeme
  /-- a lexeme has this many bytes -/
  | lexemeTooLong (bytes : Nat)
  /-- what follows this lexeme are not positions -/
  | invalidPositions (lexeme : String)
  deriving DecidableEq, Repr, Inhabited

/-- The error in words. -/
def VectorError.message : VectorError → String
  | .unterminatedQuote => "unterminated quoted lexeme"
  | .emptyLexeme => "empty lexeme"
  | .lexemeTooLong bytes => s!"lexeme is too long ({bytes} bytes, max {maxLexemeBytes})"
  | .invalidPositions lexeme => s!"invalid position list for lexeme '{lexeme}'"

open EventIntake.Text (isBlank trimLeft)

namespace SearchVector

/-! ## Lexemes -/

/-- Reads a lexeme up to its closing quote, with what follows it; `taken` holds the characters before,
last first. -/
def scanQuoted (taken : List Char) : List Char → Option (List Char × List Char)
  | [] => none
  | '\\' :: c :: rest => scanQuoted (c :: taken) rest
  | ['\\'] => none
  | '\x27' :: '\x27' :: rest => scanQuoted ('\x27' :: taken) rest
  | '\x27' :: rest => some (taken.reverse, rest)
  | c :: rest => scanQuoted (c :: taken) rest

/-- Reads a lexeme without quotes up to a blank or a colon, with what follows it; `taken` holds the
characters before, last first. A backslash at the end stands for nothing. -/
def scanBare (taken : List Char) : List Char → List Char × List Char
  | [] => (taken.reverse, [])
  | ['\\'] => (taken.reverse, [])
  | '\\' :: c :: rest => scanBare (c :: taken) rest
  | c :: rest =>
    if isBlank c || c == ':' then (taken.reverse, c :: rest) else scanBare (c :: taken) rest

/-- Reads a lexeme, with what follows it. -/
def scanLexeme : List Char → Except VectorError (List Char × List Char)
  | '\x27' :: rest =>
    match scanQuoted [] rest with
    | some r => .ok r
    | none => .error .unterminatedQuote
  | cs => .ok (scanBare [] cs)

/-! ## Positions -/

/-- The weight that a letter stands for. -/
def weight? (c : Char) : Option Weight :=
  match c with
  | 'A' => some .a
  | 'a' => some .a
  | 'B' => some .b
  | 'b' => some .b
  | 'C' => some .c
  | 'c' => some .c
  | 'D' => some .d
  | 'd' => some .d
  | _ => none

/-- The place that some digits stand for, no greater than the greatest place. -/
def placeOf (digits : List Char) : Nat :=
  digits.foldl (fun n c => min (n * 10 + (c.toNat - '0'.toNat)) maxPlace) 0

/-- Reads a position, with what follows it. -/
def scanPosition (cs : List Char) : Option (Position × List Char) :=
  let place := placeOf (cs.takeWhile Char.isDigit)
  if place = 0 then none
  else
    match cs.dropWhile Char.isDigit with
    | [] => some (.ofPlace place .d, [])
    | c :: rest =>
      match weight? c with
      | some w => some (.ofPlace place w, rest)
      | none => some (.ofPlace place .d, c :: rest)

theorem length_scanPosition_le {cs rest : List Char} {p : Position}
    (h : scanPosition cs = some (p, rest)) : rest.length ≤ cs.length := by
  unfold scanPosition at h
  have hd := (List.dropWhile_sublist (l := cs) Char.isDigit).length_le
  grind

/-- Reads positions with commas between them, with what follows them; `taken` holds the positions
before, last first. -/
def scanPositions (taken : List Position) (cs : List Char) :
    Option (List Position × List Char) :=
  match _h : scanPosition cs with
  | none => none
  | some (p, ',' :: rest) => scanPositions (p :: taken) rest
  | some (p, rest) => some ((p :: taken).reverse, rest)
termination_by cs.length
decreasing_by exact length_scanPosition_le _h

/-- Reads the positions of a lexeme, if there are any, with what follows them. -/
def scanSuffix (lexeme : String) : List Char → Except VectorError (List Position × List Char)
  | ':' :: rest =>
    match scanPositions [] rest with
    | some r => .ok r
    | none => .error (.invalidPositions lexeme)
  | cs => .ok ([], cs)

/-! ## Entries -/

/-- Reads an entry, with what follows it. -/
def scanEntry (cs : List Char) : Except VectorError (Entry × List Char) :=
  match scanLexeme cs with
  | .error e => .error e
  | .ok ([], _) => .error .emptyLexeme
  | .ok (c :: chars, rest) =>
    let lexeme := String.ofList (c :: chars)
    if maxLexemeBytes < lexeme.utf8ByteSize then .error (.lexemeTooLong lexeme.utf8ByteSize)
    else
      match scanSuffix lexeme rest with
      | .error e => .error e
      | .ok (positions, rest) =>
        if rest.head?.all isBlank then .ok (⟨lexeme, positions⟩, rest)
        else .error (.invalidPositions lexeme)

/-! What is left after an entry is shorter, so that reading all entries comes to an end. -/

theorem length_scanQuoted_le {taken cs chars rest : List Char}
    (h : scanQuoted taken cs = some (chars, rest)) : rest.length ≤ cs.length := by
  fun_induction scanQuoted taken cs <;> grind

theorem length_scanBare (taken cs : List Char) :
    (scanBare taken cs).1.length + (scanBare taken cs).2.length ≤ taken.length + cs.length := by
  fun_induction scanBare taken cs <;> grind

theorem length_scanLexeme_lt {cs chars rest : List Char} {c : Char}
    (h : scanLexeme cs = .ok (c :: chars, rest)) : rest.length < cs.length := by
  unfold scanLexeme at h
  split at h
  · split at h
    · have := length_scanQuoted_le (by assumption)
      grind
    · simp at h
  · have := length_scanBare [] cs
    grind

theorem length_scanPositions_le {taken ps : List Position} {cs rest : List Char}
    (h : scanPositions taken cs = some (ps, rest)) : rest.length ≤ cs.length := by
  fun_induction scanPositions taken cs with
  | case1 => simp at h
  | case2 taken cs p rest' hp ih =>
    have := length_scanPosition_le hp
    have := ih h
    simp_all
    omega
  | case3 taken cs p rest' _ hp =>
    have := length_scanPosition_le hp
    simp_all

theorem length_scanSuffix_le {lexeme : String} {cs rest : List Char} {ps : List Position}
    (h : scanSuffix lexeme cs = .ok (ps, rest)) : rest.length ≤ cs.length := by
  unfold scanSuffix at h
  split at h
  · split at h
    · have := length_scanPositions_le (by assumption)
      grind
    · simp at h
  · grind

theorem length_scanEntry_lt {cs rest : List Char} {e : Entry}
    (h : scanEntry cs = .ok (e, rest)) : rest.length < cs.length := by
  unfold scanEntry at h
  split at h
  · simp at h
  · simp at h
  · rename_i hl
    have := length_scanLexeme_lt hl
    dsimp only at h
    split at h
    · simp at h
    · split at h
      · simp at h
      · rename_i hs
        have := length_scanSuffix_le hs
        split at h
        · cases h
          omega
        · simp at h

theorem length_trimLeft_le (cs : List Char) : (trimLeft cs).length ≤ cs.length :=
  (List.dropWhile_sublist _).length_le

/-- Reads the entries of a text; `taken` holds the entries before, last first. -/
def scanEntries (taken : List Entry) (cs : List Char) : Except VectorError (List Entry) :=
  if trimLeft cs = [] then .ok taken.reverse
  else
    match _h : scanEntry (trimLeft cs) with
    | .error e => .error e
    | .ok (e, rest) => scanEntries (e :: taken) rest
termination_by cs.length
decreasing_by
  exact Nat.lt_of_lt_of_le (length_scanEntry_lt _h) (length_trimLeft_le cs)

/-- Reads the characters of a written vector. -/
def parseChars (cs : List Char) : Except VectorError SearchVector :=
  ofEntries <$> scanEntries [] cs

/-- Reads a written vector. -/
def parse (text : String) : Except VectorError SearchVector :=
  parseChars text.toList

end SearchVector

end EventIntake
