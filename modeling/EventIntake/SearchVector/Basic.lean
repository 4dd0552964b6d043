/-!
# Search vectors

A search vector is what an issue can be found by: a set of lexemes in byte order, each with the
positions at which it occurred. A position is a place in the text and a weight. Three limits keep a
vector small: the bytes of a lexeme, the greatest place, and the positions of one lexeme.

`SearchVector.WellFormed` says what every vector built here has in common. The operations are
concatenation, which shifts the places of the second vector past those of the first, compaction,
which keeps only the latest place of each lexeme, and three ways of leaving something out.
-/

namespace EventIntake

/-- The longest lexeme that is kept, in bytes. -/
def maxLexemeBytes : Nat := 2047

/-- The greatest place. A place beyond it counts as this one. -/
def maxPlace : Nat := 16383

/-- How many positions are kept of one lexeme. -/
def maxPositions : Nat := 256

/-- How much a position counts, the strongest weight first. -/
inductive Weight where
  | a
  | b
  | c
  | d
  deriving DecidableEq, Repr, Inhabited

/-- The weight's place in the order, the strongest first. -/
def Weight.rank : Weight → Nat
  | .a => 0
  | .b => 1
  | .c => 2
  | .d => 3

/-- A place in a text, counted from 1, and its weight. -/
structure Position where
  place : Nat
  weight : Weight
  deriving DecidableEq, Repr, Inhabited

namespace Position

/-- The position at a place, moved into the range of places. -/
def ofPlace (place : Nat) (weight : Weight) : Position :=
  ⟨min (max place 1) maxPlace, weight⟩

/-- Whether `p` stands before `q`; at one place the stronger weight comes first. -/
def before (p q : Position) : Bool :=
  p.place < q.place || (p.place == q.place && p.weight.rank ≤ q.weight.rank)

/-- The position with its place moved past `shift` places. -/
def shift (shift : Nat) (p : Position) : Position :=
  .ofPlace (p.place + shift) p.weight

end Position

/-- Of neighbours at one place, the first. -/
def firstAtEachPlace (ps : List Position) : List Position :=
  ps.foldr (fun p kept =>
    match kept with
    | [] => [p]
    | q :: rest => if p.place = q.place then p :: rest else p :: q :: rest) []

/-- A lexeme's positions in order: one for each place, with the strongest weight it has there, and no
more than the limit. -/
def settle (ps : List Position) : List Position :=
  (firstAtEachPlace (ps.mergeSort Position.before)).take maxPositions

/-- A lexeme and its positions. -/
structure Entry where
  lexeme : String
  positions : List Position
  deriving DecidableEq, Repr, Inhabited

namespace Entry

/-- Whether the entry's lexeme comes no later than the other's in byte order. -/
def before (e f : Entry) : Bool :=
  e.lexeme ≤ f.lexeme

/-- The entry's latest position, if it has any. -/
def latest? (e : Entry) : Option Position :=
  e.positions.getLast?

/-- The place of the latest position, 0 without positions. -/
def latestPlace (e : Entry) : Nat :=
  (e.latest?.map Position.place).getD 0

end Entry

/-- Makes one entry of neighbours with the same lexeme; `join` puts their positions together. -/
def gather (join : List Position → List Position → List Position) (es : List Entry) : List Entry :=
  es.foldr (fun e kept =>
    match kept with
    | [] => [e]
    | f :: rest =>
      if e.lexeme = f.lexeme then ⟨e.lexeme, join e.positions f.positions⟩ :: rest
      else e :: f :: rest) []

/-- A set of lexemes in byte order, each with its positions. -/
structure SearchVector where
  entries : List Entry
  deriving DecidableEq, Repr, Inhabited

namespace SearchVector

/-- The vector without lexemes. -/
def empty : SearchVector := ⟨[]⟩

/-- The vector of some entries in any order. A lexeme that is there more than once has the positions
of all its entries. -/
def ofEntries (es : List Entry) : SearchVector :=
  ⟨(gather (· ++ ·) (es.mergeSort Entry.before)).map fun e => ⟨e.lexeme, settle e.positions⟩⟩

/-- The vector of some words with their places. Empty and overlong words are left out. -/
def ofTokens (tokens : List (String × Nat)) : SearchVector :=
  ofEntries <| tokens.filterMap fun (word, place) =>
    if word.isEmpty || maxLexemeBytes < word.utf8ByteSize then none
    else some ⟨word, [.ofPlace place .d]⟩

/-! ## What a vector holds -/

/-- How many lexemes there are. -/
def size (v : SearchVector) : Nat :=
  v.entries.length

/-- The lexemes in byte order. -/
def lexemes (v : SearchVector) : List String :=
  v.entries.map Entry.lexeme

/-- The positions of a lexeme, if it is there. -/
def positions? (v : SearchVector) (lexeme : String) : Option (List Position) :=
  (v.entries.find? (·.lexeme == lexeme)).map Entry.positions

/-- Whether the lexeme is there. -/
def contains (v : SearchVector) (lexeme : String) : Bool :=
  (v.positions? lexeme).isSome

/-- Whether any lexeme has positions. -/
def hasPositions (v : SearchVector) : Bool :=
  v.entries.any fun e => !e.positions.isEmpty

/-- The greatest place of all, 0 if there is none. -/
def maxPosition (v : SearchVector) : Nat :=
  v.entries.foldl (fun m e => max m e.latestPlace) 0

/-- The bytes that an entry takes after `data` bytes: the lexeme, and with positions a filler to an
even address, their number and two bytes for each. -/
def dataAfter (data : Nat) (e : Entry) : Nat :=
  let data := data + e.lexeme.utf8ByteSize
  if e.positions.isEmpty then data else data + data % 2 + 2 * (e.positions.length + 1)

/-- The bytes that the vector takes where it is stored: a header, a fixed part for each lexeme, and
the lexemes with their positions one after the other. -/
def byteSize (v : SearchVector) : Nat :=
  8 + 4 * v.size + v.entries.foldl dataAfter 0

/-- What every vector built here has in common: the lexemes are neither empty nor too long and stand
in strict byte order, and the places of each are in range and strictly increasing, no more of them
than the limit. -/
structure WellFormed (v : SearchVector) : Prop where
  /-- no lexeme is empty or too long -/
  lexeme_ok : ∀ e ∈ v.entries, e.lexeme ≠ "" ∧ e.lexeme.utf8ByteSize ≤ maxLexemeBytes
  /-- the lexemes are in strict byte order -/
  sorted : v.entries.Pairwise fun e f => e.lexeme < f.lexeme
  /-- the places are in range -/
  place_ok : ∀ e ∈ v.entries, ∀ p ∈ e.positions, 1 ≤ p.place ∧ p.place ≤ maxPlace
  /-- the places of a lexeme are strictly increasing -/
  increasing : ∀ e ∈ v.entries, e.positions.Pairwise fun p q => p.place < q.place
  /-- no lexeme has more positions than the limit -/
  few : ∀ e ∈ v.entries, e.positions.length ≤ maxPositions

/-! ## Concatenation and compaction -/

/-- The vector of a text followed by another text: the places of `w` are moved past those of `v`. -/
def concat (v w : SearchVector) : SearchVector :=
  let moved := w.entries.map fun e => ⟨e.lexeme, settle (e.positions.map (.shift v.maxPosition))⟩
  ⟨gather (fun ps qs => settle (ps ++ qs)) (v.entries.merge moved Entry.before)⟩

/-- Whether concatenation keeps every position of both vectors: no place leaves the range, and no
lexeme gets more positions than the limit. -/
def concatIsLossless (v w : SearchVector) : Bool :=
  v.maxPosition + w.maxPosition ≤ maxPlace
    && (gather (· ++ ·) (v.entries.merge w.entries Entry.before)).all
        fun e => e.positions.length ≤ maxPositions

/-- For each number from 0 to the greatest place, how many of the given places there are up to it,
a place that is given twice counting once. -/
def ranks (places : List Nat) : Array Nat :=
  let used := places.foldl (fun used p => used.setIfInBounds p 1) (Array.replicate (maxPlace + 1) 0)
  (used.foldl (fun (count, ranks) u => (count + u, ranks.push (count + u))) (0, #[])).2

/-- Keeps only the latest position of each lexeme and counts the places anew from 1, in the same order
and with the same ties. -/
def compact (v : SearchVector) : SearchVector :=
  let ranks := ranks (v.entries.filterMap fun e => e.latest?.map Position.place)
  ⟨v.entries.map fun e =>
    ⟨e.lexeme, (e.latest?.map fun p => Position.ofPlace (ranks.getD p.place 0) p.weight).toList⟩⟩

/-! ## Leaving out -/

/-- The vector without positions. -/
def strip (v : SearchVector) : SearchVector :=
  ⟨v.entries.map fun e => ⟨e.lexeme, []⟩⟩

/-- The vector without some lexemes. -/
def delete (v : SearchVector) (lexemes : List String) : SearchVector :=
  ⟨v.entries.filter fun e => !lexemes.contains e.lexeme⟩

/-- The first `n` lexemes in byte order. -/
def takeFirst (v : SearchVector) (n : Nat) : SearchVector :=
  ⟨v.entries.take n⟩

/-- Whether the entry's last occurrence is later than the other's; of entries that last occurred
together, the one whose lexeme comes first. -/
def fresher (e f : Entry) : Bool :=
  f.latestPlace < e.latestPlace || (e.latestPlace == f.latestPlace && e.lexeme ≤ f.lexeme)

/-- The `n` lexemes that occurred last. -/
def takeFreshest (v : SearchVector) (n : Nat) : SearchVector :=
  ⟨((v.entries.mergeSort fresher).take n).mergeSort Entry.before⟩

end SearchVector

end EventIntake
