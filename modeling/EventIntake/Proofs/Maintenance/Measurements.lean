import EventIntake.Proofs.Maintenance.Limits

/-!
# What an append measures

What comes of an append says what was measured of it: besides a cut, which depends on the text alone,
the measurements are those of the outcome (`Appending.measurements_eq`). So the counters can be read
off the outcome (`append_measured`). One of them stands for more than its outcome: lexemes that are
left out are counted before it is known whether the rest fits, so an append that is refused for the
bytes that it would take may be counted twice (`oversized_counted_twice`).
-/

namespace EventIntake

/-- Whether lexemes were left out, by what is said of the append. -/
def AppendOutcome.isTruncated : AppendOutcome → Bool
  | truncated _ => true
  | unchanged | appended | saturated | oversized => false

namespace SearchVector

variable {existing : SearchVector} {text : List Char} {n : Nat} {p : Profile}
  {limits : IndexLimits} {r : AppendResult}

/-- What is measured by what comes of an append: `combined` is what no more than `n` lexemes are kept
of. -/
def measuredOf (combined : SearchVector) (n : Nat) (r : AppendResult) : List Measurement :=
  match r.outcome with
  | .saturated => [.saturated]
  | .oversized => evictedMeasured (combined.size - n) ++ [.oversized]
  | .truncated _ => [.truncated, .vectorBytes r.vector.byteSize]
  | .appended => [.vectorBytes r.vector.byteSize]
  | .unchanged => if combined.size = 0 then [] else [.vectorBytes r.vector.byteSize]

/-- What is measured of an append follows from what comes of it, and from whether the text is cut.
So metrics can be told from results. -/
theorem Appending.measurements_eq (h : Appending existing text n p limits r) :
    r.measurements =
      cutMeasured text limits ++ measuredOf (existing.combined text p limits) n r := by
  cases h with
  | saturated => rfl
  | nothing _ hsize =>
    rw [measuredOf, if_pos hsize]
  | oversized => rw [measuredOf, evicted_eq_size_sub]
  | @fitted _ hsize result _ =>
    rcases outcomeOf_cases existing result (existing.evicted text n p limits) with
      ⟨hout, htold⟩ | ⟨hnone, -, htold⟩ | ⟨hnone, -, htold⟩
    · simp only [measuredOf, htold, evictedMeasured, if_pos hout, List.singleton_append]
    · simp only [measuredOf, htold, if_neg hsize]
      rw [hnone]
      rfl
    · simp only [measuredOf, htold]
      rw [hnone]
      rfl

/-! ## What the metrics show -/

/-- What the metrics show of an append that keeps no more than `n` lexemes of a combined vector, apart
from a cut. -/
structure Shown (combined : SearchVector) (n : Nat) (r : AppendResult) (ms : List Measurement) :
    Prop where
  /-- nothing here is about a cut -/
  cut : Metric.inputClamped.total ms = 0
  /-- an append that is refused is counted by what it is refused for -/
  saturated : Metric.saturated.total ms = if r.outcome = .saturated then 1 else 0
  oversized : Metric.oversized.total ms = if r.outcome = .oversized then 1 else 0
  /-- lexemes are left out, even if the append is then refused -/
  truncated : Metric.truncated.total ms =
    if r.outcome.isTruncated ∨ r.outcome = .oversized ∧ n < combined.size then 1 else 0
  /-- a new vector with lexemes has its bytes observed -/
  bytes : Metric.vectorBytes.values ms =
    if r.outcome = .saturated ∨ r.outcome = .oversized ∨ r.outcome = .unchanged ∧ combined.size = 0
      then [] else [r.vector.byteSize]

/-- What an append measures apart from the text shows in each metric as it should. The cases are
those of the outcome. -/
theorem shown_measuredOf (combined : SearchVector) (n : Nat) (r : AppendResult) :
    Shown combined n r (measuredOf combined n r) := by
  obtain ⟨vector, outcome, ms⟩ := r
  cases outcome with
  | unchanged =>
    by_cases hsize : combined.size = 0
    · rw [measuredOf, if_pos hsize]
      exact ⟨rfl, rfl, rfl, rfl, (if_pos (Or.inr (Or.inr ⟨rfl, hsize⟩))).symm⟩
    · rw [measuredOf, if_neg hsize]
      exact ⟨rfl, rfl, rfl, rfl, (if_neg (by simp [hsize])).symm⟩
  | appended => exact ⟨rfl, rfl, rfl, rfl, rfl⟩
  | truncated k => exact ⟨rfl, rfl, rfl, rfl, rfl⟩
  | saturated => exact ⟨rfl, rfl, rfl, rfl, rfl⟩
  | oversized =>
    -- whether there were too many lexemes, the outcome does not say
    by_cases hmany : n < combined.size
    · rw [measuredOf, evictedMeasured, if_pos (Nat.sub_pos_of_lt hmany)]
      exact ⟨rfl, rfl, rfl, (if_pos (Or.inr ⟨rfl, hmany⟩)).symm, rfl⟩
    · rw [measuredOf, evictedMeasured, if_neg (by omega)]
      exact ⟨rfl, rfl, rfl, (if_neg (by simp [AppendOutcome.isTruncated, hmany])).symm, rfl⟩

/-- A text that is cut counts once. -/
theorem total_cutMeasured (text : List Char) (limits : IndexLimits) :
    Metric.inputClamped.total (cutMeasured text limits) =
      if limits.maxInputBytes < Text.Utf8.size text then 1 else 0 := by
  rw [cutMeasured]
  split <;> rfl

/-- A cut is nothing to the other metrics. -/
theorem total_cutMeasured_of_ne {m : Metric} (hm : m ≠ .inputClamped) (text : List Char)
    (limits : IndexLimits) : m.total (cutMeasured text limits) = 0 := by
  rw [cutMeasured]
  split
  · simp [Metric.total, Measurement.metric, hm.symm]
  · rfl

theorem values_cutMeasured (m : Metric) (text : List Char) (limits : IndexLimits) :
    m.values (cutMeasured text limits) = [] := by
  refine List.filterMap_eq_nil_iff.mpr fun x hx => ?_
  obtain rfl : x = .inputClamped := by
    have hmem := List.mem_of_mem_filter hx
    rw [cutMeasured] at hmem
    split at hmem
    · exact List.mem_singleton.mp hmem
    · cases hmem
  rfl

/-- **What an append measures.** A cut is counted if and only if the text is too long, and an append
that is refused is counted by what it is refused for. Lexemes that are left out are counted if the
outcome says so, and besides, if there were too many in an append that was refused for the bytes that
it would take. The bytes of the new vector are observed, unless the append is refused or there is no
lexeme at all. -/
theorem append_measured (existing : SearchVector) (text : List Char) (n : Nat) (p : Profile)
    (limits : IndexLimits) :
    let r := existing.append text n p limits
    let combined := existing.combined text p limits
    Metric.inputClamped.total r.measurements =
      (if limits.maxInputBytes < Text.Utf8.size text then 1 else 0) ∧
    Metric.saturated.total r.measurements = (if r.outcome = .saturated then 1 else 0) ∧
    Metric.oversized.total r.measurements = (if r.outcome = .oversized then 1 else 0) ∧
    Metric.truncated.total r.measurements =
      (if r.outcome.isTruncated ∨ r.outcome = .oversized ∧ n < combined.size then 1 else 0) ∧
    Metric.vectorBytes.values r.measurements =
      (if r.outcome = .saturated ∨ r.outcome = .oversized ∨ r.outcome = .unchanged ∧ combined.size = 0
        then [] else [r.vector.byteSize]) := by
  intro r combined
  have hms : r.measurements = cutMeasured text limits ++ measuredOf combined n r :=
    (appending existing text n p limits).measurements_eq
  have hshown := shown_measuredOf combined n r
  refine ⟨?_, ?_, ?_, ?_, ?_⟩
  · rw [hms, Metric.total_append, total_cutMeasured, hshown.cut, Nat.add_zero]
  · rw [hms, Metric.total_append, total_cutMeasured_of_ne (by decide), hshown.saturated,
      Nat.zero_add]
  · rw [hms, Metric.total_append, total_cutMeasured_of_ne (by decide), hshown.oversized,
      Nat.zero_add]
  · rw [hms, Metric.total_append, total_cutMeasured_of_ne (by decide), hshown.truncated,
      Nat.zero_add]
  · rw [hms, Metric.values_append, values_cutMeasured, hshown.bytes, List.nil_append]

/-- Of the two lexemes and a long one only the long one is to be kept, and does not fit: nothing is
left out in the end, but it is counted that lexemes were. -/
theorem oversized_counted_twice :
    ¬ (Metric.truncated.total (appendToTwo "aaaaaaa").measurements =
      if (appendToTwo "aaaaaaa").outcome.isTruncated then 1 else 0) := by
  have hcase : Appending twoLexemes "aaaaaaa".toList 1 Configuration.simple.profile
      twoLexemesLimits (appendToTwo "aaaaaaa") := appending _ _ _ _ _
  rw [hcase.measurements_eq, Metric.total_append, total_cutMeasured_of_ne (by decide),
    (shown_measuredOf _ _ _).truncated, appendToTwo_oversized, combined_twoLexemes]
  decide

end SearchVector

end EventIntake
