import EventIntake.Maintenance
import EventIntake.Proofs.Analysis.Stream
import EventIntake.Proofs.SearchVector.ByteSize
import EventIntake.Proofs.SearchVector.Compact
import EventIntake.Proofs.SearchVector.LeavingOut

/-!
# Appends

`Appending` lists the four ways in which an append can go, with everything that holds of each, and
every append goes in one of them (`appending`). From this follows what an append keeps: a well-formed
vector stays well-formed (`Appending.wellFormed`), and one within the limits stays within them
(`Appending.size_le`, `Appending.byteSize_le`). An append that does not count as a change leaves the
vector as it was (`Appending.eq_of_not_changed`).
-/

namespace EventIntake.SearchVector

variable {v w : SearchVector} {x : String} {n : Nat} {order : TruncationOrder}

/-! ## The steps of an append -/

/-- A well-formed vector that is followed by another is well-formed, whether or not it is compacted
before. -/
theorem WellFormed.follow (hv : v.WellFormed) (hw : w.WellFormed) (order : TruncationOrder) :
    (v.follow w order).WellFormed := by
  cases order with
  | lexical => exact hv.concat hw
  | recent =>
    rw [SearchVector.follow]
    split
    · exact hv.concat hw
    · exact hv.compact.concat hw

/-- The lexemes of a vector that is followed by another are those of both. -/
theorem mem_lexemes_follow (hv : v.WellFormed) (hw : w.WellFormed) (order : TruncationOrder) :
    x ∈ (v.follow w order).lexemes ↔ x ∈ v.lexemes ∨ x ∈ w.lexemes := by
  cases order with
  | lexical => exact mem_lexemes_concat hv.ascending hw.ascending
  | recent =>
    rw [follow]
    split
    · exact mem_lexemes_concat hv.ascending hw.ascending
    · rw [mem_lexemes_concat hv.compact.ascending hw.ascending, lexemes_compact]

/-- A truncated vector is well-formed in either order. -/
theorem WellFormed.truncate (hv : v.WellFormed) (n : Nat) (order : TruncationOrder) :
    (v.truncate n order).WellFormed := by
  simp only [SearchVector.truncate]
  split
  · exact hv
  · cases order with
    | lexical => exact hv.takeFirst n
    | recent => exact hv.takeFreshest n

/-- Truncation leaves as many lexemes as may be kept, or all of them if there are fewer. The order
of truncation makes no difference to this. -/
theorem size_truncate (v : SearchVector) (n : Nat) (order : TruncationOrder) :
    (v.truncate n order).size = min n v.size := by
  simp only [truncate]
  split
  · omega
  · cases order with
    | lexical => exact size_takeFirst v n
    | recent => exact size_takeFreshest v n

/-- What fits is the vector itself or the stripped one, and takes no more bytes than the limit. -/
theorem fit?_eq_some {bytes : Nat} (h : v.fit? bytes = some w) :
    (w = v ∨ w = v.strip) ∧ w.byteSize ≤ bytes := by
  rw [fit?] at h
  split at h
  · obtain rfl := Option.some.inj h
    exact ⟨Or.inl rfl, ‹_›⟩
  · split at h
    · obtain rfl := Option.some.inj h
      exact ⟨Or.inr rfl, ‹_›⟩
    · cases h

theorem fit?_eq_self {bytes : Nat} (h : v.byteSize ≤ bytes) : v.fit? bytes = some v :=
  if_pos h

/-- To make a vector fit its positions may be given up, but none of its lexemes. -/
theorem lexemes_of_fit? {bytes : Nat} (h : v.fit? bytes = some w) : w.lexemes = v.lexemes := by
  rcases (fit?_eq_some h).1 with rfl | rfl
  · rfl
  · exact lexemes_strip v

theorem WellFormed.of_fit? (hv : v.WellFormed) {bytes : Nat} (h : v.fit? bytes = some w) :
    w.WellFormed := by
  rcases (fit?_eq_some h).1 with rfl | rfl
  · exact hv
  · exact hv.strip

theorem lexemes_eq_nil_iff : v.lexemes = [] ↔ v.size = 0 := by
  rw [lexemes, size, List.map_eq_nil_iff, List.length_eq_zero_iff]

theorem eq_empty_of_size (h : v.size = 0) : v = empty :=
  congrArg SearchVector.mk (List.length_eq_zero_iff.mp h)

/-! ## How an append goes -/

variable {existing : SearchVector} {text : List Char} {p : Profile} {limits : IndexLimits}

/-- The vector of what is read of a text. -/
def incoming (text : List Char) (p : Profile) (limits : IndexLimits) : SearchVector :=
  p.toVector (Text.Utf8.takeBytes limits.maxInputBytes text)

/-- The existing vector followed by that of a text. -/
def combined (existing : SearchVector) (text : List Char) (p : Profile) (limits : IndexLimits) :
    SearchVector :=
  existing.follow (incoming text p limits) limits.truncation

/-- What of it is kept. -/
def kept (existing : SearchVector) (text : List Char) (n : Nat) (p : Profile)
    (limits : IndexLimits) : SearchVector :=
  (existing.combined text p limits).truncate n limits.truncation

/-- How many lexemes are left out. -/
def evicted (existing : SearchVector) (text : List Char) (n : Nat) (p : Profile)
    (limits : IndexLimits) : Nat :=
  (existing.combined text p limits).size - (existing.kept text n p limits).size

/-- What is measured if the text is cut. -/
def cutMeasured (text : List Char) (limits : IndexLimits) : List Measurement :=
  if limits.maxInputBytes < Text.Utf8.size text then [.inputClamped] else []

/-- What is measured if lexemes are left out. -/
def evictedMeasured (evicted : Nat) : List Measurement :=
  if 0 < evicted then [.truncated] else []

/-- How an append can go, and what it gives. -/
inductive Appending (existing : SearchVector) (text : List Char) (n : Nat) (p : Profile)
    (limits : IndexLimits) : AppendResult → Prop
  /-- the existing vector takes too many bytes -/
  | saturated (hfull : limits.maxVectorBytes < existing.byteSize) :
    Appending existing text n p limits
      ⟨existing, .saturated, cutMeasured text limits ++ [.saturated]⟩
  /-- there is no lexeme at all -/
  | nothing (hbytes : existing.byteSize ≤ limits.maxVectorBytes)
    (hsize : (existing.combined text p limits).size = 0) :
    Appending existing text n p limits
      ⟨existing.combined text p limits, .unchanged, cutMeasured text limits ++ []⟩
  /-- what is kept takes too many bytes, with positions and without -/
  | oversized (hbytes : existing.byteSize ≤ limits.maxVectorBytes)
    (hsize : (existing.combined text p limits).size ≠ 0)
    (hfit : (existing.kept text n p limits).fit? limits.maxVectorBytes = none) :
    Appending existing text n p limits
      ⟨existing, .oversized, cutMeasured text limits ++
        (evictedMeasured (existing.evicted text n p limits) ++ [.oversized])⟩
  /-- what is kept fits, perhaps without positions -/
  | fitted (hbytes : existing.byteSize ≤ limits.maxVectorBytes)
    (hsize : (existing.combined text p limits).size ≠ 0) {result : SearchVector}
    (hfit : (existing.kept text n p limits).fit? limits.maxVectorBytes = some result) :
    Appending existing text n p limits
      ⟨result, outcomeOf existing result (existing.evicted text n p limits),
        cutMeasured text limits ++
          (evictedMeasured (existing.evicted text n p limits) ++ [.vectorBytes result.byteSize])⟩

/-- An append, by the vectors and the measurements that it goes through. Every result about appends
is read off this, and runs on given texts are evaluated with it. -/
theorem append_eq (existing : SearchVector) (text : List Char) (n : Nat) (p : Profile)
    (limits : IndexLimits) :
    existing.append text n p limits =
      if limits.maxVectorBytes < existing.byteSize then
        ⟨existing, .saturated, cutMeasured text limits ++ [.saturated]⟩
      else if (existing.combined text p limits).size = 0 then
        ⟨existing.combined text p limits, .unchanged, cutMeasured text limits ++ []⟩
      else match (existing.kept text n p limits).fit? limits.maxVectorBytes with
        | none => ⟨existing, .oversized, cutMeasured text limits ++
            (evictedMeasured (existing.evicted text n p limits) ++ [.oversized])⟩
        | some result => ⟨result, outcomeOf existing result (existing.evicted text n p limits),
            cutMeasured text limits ++ (evictedMeasured (existing.evicted text n p limits) ++
              [.vectorBytes result.byteSize])⟩ := by
  rw [append]
  split
  · rfl
  · simp only [appendVector]
    by_cases hsize : (existing.combined text p limits).size = 0
    · rw [if_pos hsize]
      rw [combined, incoming] at hsize
      rw [if_pos hsize]
      rfl
    · rw [if_neg hsize]
      rw [combined, incoming] at hsize
      rw [if_neg hsize]
      rcases hfit : (existing.kept text n p limits).fit? limits.maxVectorBytes with _ | result <;>
        rw [kept, combined, incoming] at hfit <;> rw [hfit] <;> rfl

/-- Every append goes in one of these ways. What holds of appends is proved by cases of this, so a
change to the steps of an append is met here. -/
theorem appending (existing : SearchVector) (text : List Char) (n : Nat) (p : Profile)
    (limits : IndexLimits) :
    Appending existing text n p limits (existing.append text n p limits) := by
  rw [append_eq]
  by_cases hfull : limits.maxVectorBytes < existing.byteSize
  · rw [if_pos hfull]
    exact .saturated hfull
  · rw [if_neg hfull]
    have hbytes : existing.byteSize ≤ limits.maxVectorBytes := Nat.not_lt.mp hfull
    by_cases hsize : (existing.combined text p limits).size = 0
    · rw [if_pos hsize]
      exact .nothing hbytes hsize
    · rw [if_neg hsize]
      rcases hfit : (existing.kept text n p limits).fit? limits.maxVectorBytes with _ | result
      · exact .oversized hbytes hsize hfit
      · exact .fitted hbytes hsize hfit

/-! ## What is read of a text -/

/-- A text that is not too long is read as a whole. -/
theorem incoming_of_size_le (h : Text.Utf8.size text ≤ limits.maxInputBytes) :
    incoming text p limits = p.toVector text := by
  rw [incoming, Text.Utf8.takeBytes_of_size_le h]

/-! ## What an append keeps -/

variable {r : AppendResult}

/-- Whatever the text is, a well-formed vector that is followed by that of the
text is well-formed. -/
theorem wellFormed_combined (hv : existing.WellFormed) :
    (existing.combined text p limits).WellFormed :=
  hv.follow (p.wellFormed_toVector _) _

theorem wellFormed_kept (hv : existing.WellFormed) : (existing.kept text n p limits).WellFormed :=
  (wellFormed_combined hv).truncate n _

/-- Before truncation, the lexemes are those of the existing vector and of what is
read of the text. -/
theorem mem_lexemes_combined (hv : existing.WellFormed) :
    x ∈ (existing.combined text p limits).lexemes ↔
      x ∈ existing.lexemes ∨ x ∈ (incoming text p limits).lexemes :=
  mem_lexemes_follow hv (p.wellFormed_toVector _) _

theorem size_kept_le (existing : SearchVector) (text : List Char) (n : Nat) (p : Profile)
    (limits : IndexLimits) : (existing.kept text n p limits).size ≤ n := by
  rw [kept, size_truncate]
  exact Nat.min_le_left _ _

/-- No more lexemes are left out than have to be. -/
theorem evicted_eq_size_sub (existing : SearchVector) (text : List Char) (n : Nat) (p : Profile)
    (limits : IndexLimits) :
    existing.evicted text n p limits = (existing.combined text p limits).size - n := by
  rw [evicted, kept, size_truncate]
  omega

/-- Where there is no lexeme, none is kept. -/
theorem kept_eq_combined (hsize : (existing.combined text p limits).size = 0) :
    existing.kept text n p limits = existing.combined text p limits := by
  have hkept : (existing.kept text n p limits).size = 0 := by
    rw [kept, size_truncate, hsize, Nat.min_zero]
  rw [eq_empty_of_size hsize, eq_empty_of_size hkept]

theorem size_of_fit? {bytes : Nat} (h : v.fit? bytes = some w) : w.size = v.size := by
  rw [size_eq_length_lexemes, size_eq_length_lexemes, lexemes_of_fit? h]

/-- The outcome of a new vector goes by what is left out, and then by whether anything else is new. -/
theorem outcomeOf_cases (existing result : SearchVector) (evicted : Nat) :
    (0 < evicted ∧ outcomeOf existing result evicted = .truncated evicted) ∨
    (evicted = 0 ∧ result = existing ∧ outcomeOf existing result evicted = .unchanged) ∨
    (evicted = 0 ∧ result ≠ existing ∧ outcomeOf existing result evicted = .appended) := by
  rw [outcomeOf]
  by_cases hout : 0 < evicted
  · exact Or.inl ⟨hout, if_pos hout⟩
  · have hnone : evicted = 0 := Nat.eq_zero_of_not_pos hout
    rw [if_neg hout]
    by_cases hsame : result = existing
    · exact Or.inr (Or.inl ⟨hnone, hsame, if_pos hsame⟩)
    · exact Or.inr (Or.inr ⟨hnone, hsame, if_neg hsame⟩)

/-- An append that has come to a new vector is not refused any more. -/
theorem outcomeOf_ne (existing result : SearchVector) (evicted : Nat) :
    outcomeOf existing result evicted ≠ .saturated ∧
      outcomeOf existing result evicted ≠ .oversized := by
  rcases outcomeOf_cases existing result evicted with ⟨-, htold⟩ | ⟨-, -, htold⟩ | ⟨-, -, htold⟩ <;>
    rw [htold] <;> exact ⟨nofun, nofun⟩

namespace Appending

/-- An append keeps a vector well-formed, also where it is refused. -/
theorem wellFormed (h : Appending existing text n p limits r)
    (hv : existing.WellFormed) : r.vector.WellFormed := by
  cases h with
  | saturated => exact hv
  | nothing => exact wellFormed_combined hv
  | oversized => exact hv
  | fitted _ _ hfit => exact (wellFormed_kept hv).of_fit? hfit

/-- A vector with no more lexemes than may be kept has no more after an append. -/
theorem size_le (h : Appending existing text n p limits r) (hv : existing.size ≤ n) :
    r.vector.size ≤ n := by
  cases h with
  | saturated => exact hv
  | nothing _ hsize => exact Nat.le_trans (Nat.le_of_eq hsize) (Nat.zero_le n)
  | oversized => exact hv
  | fitted _ _ hfit =>
    exact Nat.le_trans (Nat.le_of_eq (size_of_fit? hfit)) (size_kept_le existing text n p limits)

/-- A vector within the limit of bytes stays within it, and is never refused for its bytes. A vector
without lexemes is the only one that is kept without being measured, and takes the fewest bytes. -/
theorem byteSize_le (h : Appending existing text n p limits r)
    (hv : existing.byteSize ≤ limits.maxVectorBytes) :
    r.vector.byteSize ≤ limits.maxVectorBytes ∧ r.outcome ≠ .saturated := by
  cases h with
  | saturated hfull => exact absurd hfull (Nat.not_lt.mpr hv)
  | nothing _ hsize =>
    rw [eq_empty_of_size hsize, byteSize_empty]
    exact ⟨Nat.le_trans (le_byteSize existing) hv, nofun⟩
  | oversized => exact ⟨hv, nofun⟩
  | fitted _ _ hfit =>
    exact ⟨(fit?_eq_some hfit).2, (outcomeOf_ne _ _ _).1⟩

/-- Where the limit of bytes leaves room for as many lexemes as are kept, no append is refused: even
the largest entries fit with all of their positions. -/
theorem accepted_of_room (h : Appending existing text n p limits r)
    (hwf : existing.WellFormed) (hv : existing.byteSize ≤ limits.maxVectorBytes)
    (hroom : 8 + maxEntryBytes * n ≤ limits.maxVectorBytes) :
    r.outcome ≠ .saturated ∧ r.outcome ≠ .oversized := by
  refine ⟨(h.byteSize_le hv).2, fun hover => ?_⟩
  cases h with
  | saturated => cases hover
  | nothing => cases hover
  | oversized _ _ hfit =>
    have hkept : (existing.kept text n p limits).byteSize ≤ limits.maxVectorBytes :=
      (wellFormed_kept hwf).byteSize_le_of_room (size_kept_le existing text n p limits) hroom
    rw [fit?_eq_self hkept] at hfit
    cases hfit
  | fitted => exact (outcomeOf_ne _ _ _).2 hover

/-- Without a change the vector is what it was. This includes an append to a vector without lexemes
of a text without any. -/
theorem eq_of_not_changed (h : Appending existing text n p limits r)
    (hv : existing.WellFormed) (hsame : r.outcome.changed = false) : r.vector = existing := by
  cases h with
  | saturated => rfl
  | nothing _ hsize =>
    -- the existing lexemes are among those of the combined vector, so there are none of them either
    rw [eq_empty_of_size hsize]
    refine (eq_empty_of_size (lexemes_eq_nil_iff.mp ?_)).symm
    rw [← lexemes_eq_nil_iff] at hsize
    refine List.eq_nil_iff_forall_not_mem.mpr fun x hx => ?_
    have hmem : x ∈ (existing.combined text p limits).lexemes :=
      (mem_lexemes_combined hv).mpr (Or.inl hx)
    rw [hsize] at hmem
    exact List.not_mem_nil hmem
  | oversized => rfl
  | fitted =>
    rcases outcomeOf_cases _ _ _ with ⟨-, htold⟩ | ⟨-, heq, -⟩ | ⟨-, -, htold⟩
    · rw [htold] at hsame
      cases hsame
    · exact heq
    · rw [htold] at hsame
      cases hsame

/-- An append that is not refused has the lexemes that are kept. -/
theorem lexemes_eq (h : Appending existing text n p limits r)
    (hsat : r.outcome ≠ .saturated) (hover : r.outcome ≠ .oversized) :
    r.vector.lexemes = (existing.kept text n p limits).lexemes := by
  cases h with
  | saturated => exact absurd rfl hsat
  | nothing _ hsize => rw [kept_eq_combined hsize]
  | oversized => exact absurd rfl hover
  | fitted _ _ hfit => exact lexemes_of_fit? hfit

/-- An append that is not refused tells how many lexemes it leaves out. -/
theorem outcome_eq_truncated (h : Appending existing text n p limits r)
    (hsat : r.outcome ≠ .saturated) (hover : r.outcome ≠ .oversized)
    (hout : 0 < existing.evicted text n p limits) :
    r.outcome = .truncated (existing.evicted text n p limits) := by
  cases h with
  | saturated => exact absurd rfl hsat
  | nothing _ hsize =>
    rw [evicted, hsize] at hout
    omega
  | oversized => exact absurd rfl hover
  | fitted => exact if_pos hout

/-- Within the limit of bytes, the vector is what is kept. -/
theorem eq_kept (h : Appending existing text n p limits r)
    (hv : existing.byteSize ≤ limits.maxVectorBytes)
    (hkept : (existing.kept text n p limits).byteSize ≤ limits.maxVectorBytes) :
    r.vector = existing.kept text n p limits := by
  cases h with
  | saturated hfull => exact absurd hfull (Nat.not_lt.mpr hv)
  | nothing _ hsize => exact (kept_eq_combined hsize).symm
  | oversized _ _ hfit =>
    rw [fit?_eq_self hkept] at hfit
    cases hfit
  | fitted _ _ hfit =>
    rw [fit?_eq_self hkept] at hfit
    exact (Option.some.inj hfit).symm

end Appending

end EventIntake.SearchVector
