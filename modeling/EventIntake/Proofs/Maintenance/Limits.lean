import EventIntake.Proofs.Maintenance.Append

/-!
# The limits of one append

The existing vector may be from a time with other limits. An append that is not refused for it still
gives a vector within its own limits, unless what is kept does not fit even without positions: then
the existing vector stays, with all its lexemes (`append_within_limits`). It may have too many of them
(`append_oversized_keeps_all`).
-/

namespace EventIntake.SearchVector

variable {existing : SearchVector} {text : List Char} {n : Nat} {p : Profile} {limits : IndexLimits}
  {r : AppendResult}

namespace Appending

/-- Only a vector that takes too many bytes is refused for it. -/
theorem byteSize_le_of_ne_saturated (h : Appending existing text n p limits r)
    (hsat : r.outcome ≠ .saturated) : existing.byteSize ≤ limits.maxVectorBytes := by
  cases h with
  | saturated => exact absurd rfl hsat
  | nothing hbytes => exact hbytes
  | oversized hbytes => exact hbytes
  | fitted hbytes => exact hbytes

/-- An append is refused for the existing vector if and only if that takes too many bytes. -/
theorem outcome_eq_saturated_iff (h : Appending existing text n p limits r) :
    r.outcome = .saturated ↔ limits.maxVectorBytes < existing.byteSize := by
  refine ⟨fun hsat => Nat.lt_of_not_le fun hbytes => (h.byteSize_le hbytes).2 hsat, fun hfull => ?_⟩
  by_contra hsat
  exact Nat.not_lt.mpr (h.byteSize_le_of_ne_saturated hsat) hfull

/-- An append that gives a new vector gives one with no more lexemes than are kept. -/
theorem size_le_of_accepted (h : Appending existing text n p limits r)
    (hsat : r.outcome ≠ .saturated) (hover : r.outcome ≠ .oversized) : r.vector.size ≤ n := by
  rw [size_eq_length_lexemes, h.lexemes_eq hsat hover, ← size_eq_length_lexemes]
  exact size_kept_le existing text n p limits

/-- Where the vector would have taken too many bytes, the existing one stays. -/
theorem eq_of_oversized (h : Appending existing text n p limits r)
    (hover : r.outcome = .oversized) : r.vector = existing := by
  cases h with
  | saturated => rfl
  | nothing => cases hover
  | oversized => rfl
  | fitted => exact absurd hover (outcomeOf_ne _ _ _).2

end Appending

/-- **An append keeps its own limits.** Whatever the existing vector is, unless it is refused for the
bytes that it takes, the vector after the append takes no more bytes than the limit. It has no more
lexemes than are to be kept either, unless the append is refused for the bytes that it would take; then
the existing vector stays as it is. -/
theorem append_within_limits (existing : SearchVector) (text : List Char) (n : Nat) (p : Profile)
    (limits : IndexLimits) (hsat : (existing.append text n p limits).outcome ≠ .saturated) :
    (existing.append text n p limits).vector.byteSize ≤ limits.maxVectorBytes ∧
    ((existing.append text n p limits).outcome ≠ .oversized →
      (existing.append text n p limits).vector.size ≤ n) ∧
    ((existing.append text n p limits).outcome = .oversized →
      (existing.append text n p limits).vector = existing) := by
  have hcase := appending existing text n p limits
  have hbytes := hcase.byteSize_le_of_ne_saturated hsat
  exact ⟨(hcase.byteSize_le hbytes).1, hcase.size_le_of_accepted hsat, hcase.eq_of_oversized⟩

/-- Two lexemes without positions. -/
def twoLexemes : SearchVector := ⟨[⟨"b", []⟩, ⟨"c", []⟩]⟩

/-- As many bytes as the two lexemes take. -/
def twoLexemesLimits : IndexLimits := { IndexLimits.standard with maxVectorBytes := 18 }

/-- An append to the two lexemes when only one is to be kept. -/
abbrev appendToTwo (text : String) : AppendResult :=
  twoLexemes.append text.toList 1 Configuration.simple.profile twoLexemesLimits

/-- A lexeme that comes before the two is put before them. -/
theorem combined_twoLexemes_short :
    twoLexemes.combined "a".toList Configuration.simple.profile twoLexemesLimits =
      ⟨⟨"a", [⟨1, .d⟩]⟩ :: twoLexemes.entries⟩ := by
  have hincoming : incoming "a".toList Configuration.simple.profile twoLexemesLimits =
      ⟨[⟨"a", [⟨1, .d⟩]⟩]⟩ :=
    Profile.toVector_of_occurrences (by decide) (by decide)
  rw [combined, hincoming]
  simp [follow, concat, twoLexemes, twoLexemesLimits, IndexLimits.standard, settle,
    firstAtEachPlace, maxPositions, Entry.before, maxPosition, Entry.latestPlace, Entry.latest?,
    Position.shift, Position.ofPlace, maxPlace, gather]

/-- It is kept, and the two are left out. -/
theorem appendToTwo_truncated : (appendToTwo "a").outcome = .truncated 2 := by
  rw [appendToTwo, append_eq, evicted, kept, combined_twoLexemes_short]
  decide

/-- The number of lexemes is lowered to one for an append to two. Both are left out for the one that
comes before them. -/
theorem append_within_limits_lowered :
    (appendToTwo "a").outcome = .truncated 2 ∧
    (appendToTwo "a").vector.byteSize ≤ 18 ∧ (appendToTwo "a").vector.size ≤ 1 := by
  have hsat : (appendToTwo "a").outcome ≠ .saturated := by
    rw [appendToTwo_truncated]
    decide
  have hover : (appendToTwo "a").outcome ≠ .oversized := by
    rw [appendToTwo_truncated]
    decide
  obtain ⟨hbytes, hsize, -⟩ := append_within_limits twoLexemes "a".toList 1
    Configuration.simple.profile twoLexemesLimits hsat
  exact ⟨appendToTwo_truncated, hbytes, hsize hover⟩

/-! ## A vector that keeps too many lexemes -/

/-- The vector of one lexeme that takes more bytes than the two. -/
def longLexeme : SearchVector := ⟨[⟨"aaaaaaa", [⟨1, .d⟩]⟩]⟩

/-- It comes before the two as well. -/
theorem combined_twoLexemes :
    twoLexemes.combined "aaaaaaa".toList Configuration.simple.profile twoLexemesLimits =
      ⟨longLexeme.entries ++ twoLexemes.entries⟩ := by
  have hincoming : incoming "aaaaaaa".toList Configuration.simple.profile twoLexemesLimits =
      longLexeme :=
    Profile.toVector_of_occurrences (by decide) (by decide)
  have hbefore : Entry.before ⟨"b", []⟩ ⟨"aaaaaaa", [⟨1, .d⟩]⟩ = false := by decide
  rw [combined, hincoming]
  simp [follow, concat, twoLexemes, twoLexemesLimits, IndexLimits.standard, longLexeme, settle,
    firstAtEachPlace, maxPositions, hbefore, maxPosition, Entry.latestPlace, Entry.latest?,
    Position.shift, Position.ofPlace, maxPlace, gather]

/-- Only the long lexeme is to be kept, and does not fit. -/
theorem appendToTwo_oversized : (appendToTwo "aaaaaaa").outcome = .oversized := by
  rw [appendToTwo, append_eq, evicted, kept, combined_twoLexemes]
  decide

/-- A lexeme that is too long to fit comes before the two, which then both stay, though no more than
one is to be kept. -/
theorem append_oversized_keeps_all :
    ¬ ((appendToTwo "aaaaaaa").outcome ≠ .saturated →
      (appendToTwo "aaaaaaa").vector.size ≤ 1 ∧
        (appendToTwo "aaaaaaa").vector.byteSize ≤ twoLexemesLimits.maxVectorBytes) := by
  have hcase : Appending twoLexemes "aaaaaaa".toList 1 Configuration.simple.profile
      twoLexemesLimits (appendToTwo "aaaaaaa") := appending _ _ _ _ _
  rw [hcase.eq_of_oversized appendToTwo_oversized, appendToTwo_oversized]
  decide

end EventIntake.SearchVector
