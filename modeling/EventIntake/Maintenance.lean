import EventIntake.Analysis.Profile
import EventIntake.Metric

/-!
# Index maintenance

Appending a text to a search vector within limits. The text is cut to a number of bytes and analyzed,
and its vector comes after the one that is there. If there are then too many lexemes, those that the
truncation order ranks last are left out. If the vector still takes too many bytes, it loses its
positions, and if that does not help, the text is not appended at all. A vector that takes too many
bytes before is left alone.
-/

namespace EventIntake

/-- Which lexemes stay when there are too many. -/
inductive TruncationOrder
  /-- the first in byte order -/
  | lexical
  /-- those that occurred last -/
  | recent
  deriving DecidableEq, Repr, Inhabited

/-- The name of a truncation order. -/
def TruncationOrder.name : TruncationOrder → String
  | lexical => "lexical"
  | recent => "recent"

/-- The truncation order with a name. -/
def TruncationOrder.ofName? (s : String) : Option TruncationOrder :=
  [lexical, recent].find? (·.name == s)

/-- The limits of every append. -/
structure IndexLimits where
  /-- how many bytes of a text are read -/
  maxInputBytes : Nat
  /-- how many bytes a vector may take -/
  maxVectorBytes : Nat
  /-- which lexemes stay when there are too many -/
  truncation : TruncationOrder
  deriving DecidableEq, Repr, Inhabited

/-- The usual limits. -/
def IndexLimits.standard : IndexLimits :=
  ⟨250000, 1040000, .lexical⟩

/-- The usual greatest number of lexemes. -/
def standardMaxLexemes : Nat := 3800

/-- What became of an append. -/
inductive AppendOutcome
  /-- the text added nothing -/
  | unchanged
  /-- the text was added -/
  | appended
  /-- the text was added and some lexemes were left out -/
  | truncated (evicted : Nat)
  /-- the vector took too many bytes before -/
  | saturated
  /-- the vector would have taken too many bytes -/
  | oversized
  deriving DecidableEq, Repr, Inhabited

/-- Whether the vector that results is a new one. -/
def AppendOutcome.changed : AppendOutcome → Bool
  | appended | truncated _ => true
  | unchanged | saturated | oversized => false

/-- The vector after an append, what became of the append, and what was measured. -/
structure AppendResult where
  vector : SearchVector
  outcome : AppendOutcome
  measurements : List Measurement
  deriving DecidableEq, Repr, Inhabited

namespace SearchVector

/-- The vector of a text that follows another. If the order goes by the last occurrence, and positions
would get lost, the existing positions are first counted anew. -/
def follow (v incoming : SearchVector) (order : TruncationOrder) : SearchVector :=
  match order with
  | .lexical => v.concat incoming
  | .recent => if v.concatIsLossless incoming then v.concat incoming else v.compact.concat incoming

/-- At most `n` lexemes of a vector. -/
def truncate (v : SearchVector) (n : Nat) (order : TruncationOrder) : SearchVector :=
  if v.size ≤ n then v
  else
    match order with
    | .lexical => v.takeFirst n
    | .recent => v.takeFreshest n

/-- The vector itself, or without positions if it takes too many bytes, if that is possible within
the limit. -/
def fit? (v : SearchVector) (maxBytes : Nat) : Option SearchVector :=
  if v.byteSize ≤ maxBytes then some v
  else if v.strip.byteSize ≤ maxBytes then some v.strip
  else none

/-- The outcome of an append that made a new vector. -/
def outcomeOf (existing result : SearchVector) (evicted : Nat) : AppendOutcome :=
  if 0 < evicted then .truncated evicted
  else if result = existing then .unchanged
  else .appended

/-- Appends the vector of a text. -/
def appendVector (existing incoming : SearchVector) (maxLexemes : Nat) (limits : IndexLimits) :
    AppendResult :=
  let combined := existing.follow incoming limits.truncation
  if combined.size = 0 then ⟨combined, .unchanged, []⟩
  else
    let kept := combined.truncate maxLexemes limits.truncation
    let evicted := combined.size - kept.size
    let counted := if 0 < evicted then [.truncated] else []
    match kept.fit? limits.maxVectorBytes with
    | none => ⟨existing, .oversized, counted ++ [.oversized]⟩
    | some result =>
      ⟨result, outcomeOf existing result evicted, counted ++ [.vectorBytes result.byteSize]⟩

/-- Appends a text. -/
def append (existing : SearchVector) (text : List Char) (maxLexemes : Nat) (profile : Profile)
    (limits : IndexLimits) : AppendResult :=
  let clamped := if limits.maxInputBytes < Text.Utf8.size text then [.inputClamped] else []
  if limits.maxVectorBytes < existing.byteSize then ⟨existing, .saturated, clamped ++ [.saturated]⟩
  else
    let incoming := profile.toVector (Text.Utf8.takeBytes limits.maxInputBytes text)
    let r := existing.appendVector incoming maxLexemes limits
    ⟨r.vector, r.outcome, clamped ++ r.measurements⟩

end SearchVector

end EventIntake
