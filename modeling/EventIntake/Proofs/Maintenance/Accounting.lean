import EventIntake.Proofs.Maintenance.FirstLexemes
import EventIntake.Proofs.Maintenance.Limits

/-!
# Every lexeme is accounted for

An append has to do with the lexemes of the existing vector and of what is read of the text
(`lexemesTogether`). If it is not refused, it keeps as many of them as there may be, with positions or
without, and what is missing is what its outcome says is left out (`lexemes_accounted`). Both
truncation orders and compaction come down to this: the vector that is truncated has all the lexemes
(`lexemes_combined`), and truncation leaves out no more than it has to (`size_truncate`).
-/

namespace EventIntake

/-- How many lexemes were left out, by what is said of the append. -/
def AppendOutcome.evicted : AppendOutcome → Nat
  | truncated evicted => evicted
  | unchanged | appended | saturated | oversized => 0

namespace SearchVector

variable {v existing : SearchVector} {x : String} {text : List Char} {n : Nat} {p : Profile}
  {limits : IndexLimits} {r : AppendResult}

/-! ## All lexemes -/

/-- The lexemes of a vector and of what is read of a text, in byte order, each of them once. -/
def lexemesTogether (existing : SearchVector) (text : List Char) (p : Profile)
    (limits : IndexLimits) : List String :=
  inByteOrder (existing.lexemes ++ (incoming text p limits).lexemes)

theorem mem_lexemesTogether :
    x ∈ existing.lexemesTogether text p limits ↔
      x ∈ existing.lexemes ∨ x ∈ (incoming text p limits).lexemes := by
  rw [lexemesTogether, mem_inByteOrder, List.mem_append]

/-- A lexeme that is both in the vector and in the text counts once. -/
theorem nodup_lexemesTogether (existing : SearchVector) (text : List Char) (p : Profile)
    (limits : IndexLimits) : (existing.lexemesTogether text p limits).Nodup :=
  (pairwise_inByteOrder _).imp String.ne_of_lt

/-- Whether or not the existing positions are compacted, the vector that is truncated has all the
lexemes. -/
theorem lexemes_combined (hv : existing.WellFormed) :
    (existing.combined text p limits).lexemes = existing.lexemesTogether text p limits := by
  rw [← (wellFormed_combined hv).inByteOrder_lexemes]
  refine inByteOrder_congr fun x => ?_
  rw [mem_lexemes_combined hv, List.mem_append]

theorem size_combined (hv : existing.WellFormed) :
    (existing.combined text p limits).size = (existing.lexemesTogether text p limits).length := by
  rw [size_eq_length_lexemes, lexemes_combined hv]

/-! ## What truncation keeps -/

theorem truncate_of_size_le {order : TruncationOrder} (h : v.size ≤ n) : v.truncate n order = v :=
  if_pos h

theorem mem_lexemes_of_truncate {order : TruncationOrder} (hx : x ∈ (v.truncate n order).lexemes) :
    x ∈ v.lexemes := by
  simp only [truncate] at hx
  split at hx
  · exact hx
  · obtain ⟨e, he, rfl⟩ := List.mem_map.mp hx
    refine List.mem_map_of_mem ?_
    cases order with
    | lexical => exact List.mem_of_mem_take he
    | recent => exact mem_of_mem_takeFreshest he

/-- The lexemes that are left out are those for which there is no room: how many there are together,
less how many may be kept. -/
theorem evicted_eq (hv : existing.WellFormed) :
    existing.evicted text n p limits = (existing.lexemesTogether text p limits).length - n := by
  rw [evicted_eq_size_sub, size_combined hv]

/-! ## What an append keeps and leaves out -/

/-- The outcome of a new vector tells how many lexemes are left out, none if it does not speak of
them. -/
theorem evicted_outcomeOf (existing result : SearchVector) (k : Nat) :
    (outcomeOf existing result k).evicted = k := by
  rcases outcomeOf_cases existing result k with ⟨-, htold⟩ | ⟨hnone, -, htold⟩ | ⟨hnone, -, htold⟩
  · rw [htold]
    rfl
  · rw [htold, hnone]
    rfl
  · rw [htold, hnone]
    rfl

namespace Appending

/-- An append that is not refused says how many lexemes it leaves out. -/
theorem evicted_outcome (h : Appending existing text n p limits r)
    (hsat : r.outcome ≠ .saturated) (hover : r.outcome ≠ .oversized) :
    r.outcome.evicted = existing.evicted text n p limits := by
  cases h with
  | saturated => exact absurd rfl hsat
  | nothing _ hsize =>
    rw [evicted, hsize, Nat.zero_sub]
    rfl
  | oversized => exact absurd rfl hover
  | fitted => exact evicted_outcomeOf _ _ _

/-- An append that is not refused keeps as many lexemes as there may be. -/
theorem size_eq (h : Appending existing text n p limits r) (hv : existing.WellFormed)
    (hsat : r.outcome ≠ .saturated) (hover : r.outcome ≠ .oversized) :
    r.vector.size = min n (existing.lexemesTogether text p limits).length := by
  rw [size_eq_length_lexemes, h.lexemes_eq hsat hover, ← size_eq_length_lexemes, kept,
    size_truncate, size_combined hv]

theorem mem_lexemesTogether (h : Appending existing text n p limits r) (hv : existing.WellFormed)
    (hsat : r.outcome ≠ .saturated) (hover : r.outcome ≠ .oversized) (hx : x ∈ r.vector.lexemes) :
    x ∈ existing.lexemesTogether text p limits := by
  rw [h.lexemes_eq hsat hover] at hx
  rw [← lexemes_combined hv]
  exact mem_lexemes_of_truncate hx

/-- Where no lexeme has to be left out, an append that is not refused keeps all of them. -/
theorem lexemes_eq_all (h : Appending existing text n p limits r) (hv : existing.WellFormed)
    (hsat : r.outcome ≠ .saturated) (hover : r.outcome ≠ .oversized)
    (hroom : (existing.lexemesTogether text p limits).length ≤ n) :
    r.vector.lexemes = existing.lexemesTogether text p limits := by
  rw [← size_combined hv] at hroom
  rw [h.lexemes_eq hsat hover, kept, truncate_of_size_le hroom, lexemes_combined hv]

end Appending

/-- **Every lexeme is accounted for.** If an append is not refused, the lexemes of the vector after it
are among those of the vector before it and of what is read of the text. With those that the outcome
says are left out they are as many, and there are as many of them as there may be. Unless the outcome
says that lexemes are left out, all are there, and with lexical truncation those that are there come
first in byte order. -/
theorem lexemes_accounted (existing : SearchVector) (text : List Char) (n : Nat) (p : Profile)
    (limits : IndexLimits) (hv : existing.WellFormed)
    (hsat : (existing.append text n p limits).outcome ≠ .saturated)
    (hover : (existing.append text n p limits).outcome ≠ .oversized) :
    let r := existing.append text n p limits
    let all := existing.lexemesTogether text p limits
    (∀ x ∈ r.vector.lexemes, x ∈ all) ∧
    r.vector.size + r.outcome.evicted = all.length ∧
    r.vector.size = min n all.length ∧
    ((∀ k, r.outcome ≠ .truncated k) → r.vector.lexemes = all) ∧
    (limits.truncation = .lexical → r.vector.lexemes = all.take r.vector.size) := by
  intro r all
  have hcase : Appending existing text n p limits r := appending existing text n p limits
  have hsize : r.vector.size = min n all.length := hcase.size_eq hv hsat hover
  have hevicted : r.outcome.evicted = all.length - n :=
    (hcase.evicted_outcome hsat hover).trans (evicted_eq hv)
  refine ⟨fun x => hcase.mem_lexemesTogether hv hsat hover, by omega, hsize, fun hnone => ?_,
    fun hlex => ?_⟩
  · refine hcase.lexemes_eq_all hv hsat hover (Nat.le_of_not_lt fun hmany => ?_)
    have hout : 0 < existing.evicted text n p limits := by
      rw [evicted_eq hv]
      exact Nat.sub_pos_of_lt hmany
    exact hnone _ (hcase.outcome_eq_truncated hsat hover hout)
  · rw [hcase.lexemes_lexical hlex hv hsat hover, hsize, firstLexemes]
    exact List.take_eq_take_min

/-- An append to the two lexemes that leaves one of three out, and the others without positions. -/
abbrev appendStripped : AppendResult :=
  twoLexemes.append "a".toList 2 Configuration.simple.profile twoLexemesLimits

/-- The positions of the new lexeme take too many bytes, so those that are left have none. -/
theorem appendStripped_eq : appendStripped =
    ⟨⟨[⟨"a", []⟩, ⟨"b", []⟩]⟩, .truncated 1, [.truncated, .vectorBytes 18]⟩ := by
  rw [appendStripped, append_eq, evicted, kept, combined_twoLexemes_short]
  decide

theorem wellFormed_twoLexemes : twoLexemes.WellFormed := by
  decide

/-- Of three lexemes the last in byte order is left out, and the other two lose their positions.
Together with the outcome, all three are accounted for. -/
theorem lexemes_accounted_stripped :
    twoLexemes.lexemesTogether "a".toList Configuration.simple.profile twoLexemesLimits =
      ["a", "b", "c"] ∧
    appendStripped.outcome = .truncated 1 ∧ appendStripped.vector.hasPositions = false ∧
    appendStripped.vector.size + appendStripped.outcome.evicted = 3 ∧
    appendStripped.vector.lexemes = ["a", "b"] := by
  have hall : twoLexemes.lexemesTogether "a".toList Configuration.simple.profile
      twoLexemesLimits = ["a", "b", "c"] := by
    rw [← lexemes_combined wellFormed_twoLexemes, combined_twoLexemes_short]
    rfl
  have hout : appendStripped.outcome = .truncated 1 := by rw [appendStripped_eq]
  have hsat : appendStripped.outcome ≠ .saturated := by
    rw [hout]
    decide
  have hover : appendStripped.outcome ≠ .oversized := by
    rw [hout]
    decide
  obtain ⟨-, hsum, hsize, -, hfirst⟩ := lexemes_accounted twoLexemes "a".toList 2
    Configuration.simple.profile twoLexemesLimits wellFormed_twoLexemes hsat hover
  rw [hall] at hsum hsize hfirst
  refine ⟨hall, hout, ?_, hsum, ?_⟩
  · rw [appendStripped_eq]
    rfl
  · rw [hfirst rfl, hsize]
    rfl

end SearchVector

end EventIntake
