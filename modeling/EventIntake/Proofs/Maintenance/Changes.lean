import EventIntake.Proofs.Maintenance.Accounting

/-!
# What counts as a change

An append that makes another vector always counts as a change. The converse holds as long as no lexeme
is left out, or the existing vector does not have exactly as many lexemes as are kept
(`changed_iff`): truncation gives a vector with just that many. When it takes away what the text has
brought and nothing else, the vector is the old one, and still counts as changed (`truncated_back`).
-/

namespace EventIntake.SearchVector

variable {existing : SearchVector} {text : List Char} {n : Nat} {p : Profile}
  {limits : IndexLimits} {r : AppendResult}

namespace Appending

/-- What counts as a change either makes another vector or leaves lexemes out. -/
theorem of_changed (h : Appending existing text n p limits r) (hchanged : r.outcome.changed = true) :
    (r.vector ≠ existing ∧ r.outcome = .appended) ∨
    (0 < existing.evicted text n p limits ∧
      r.outcome = .truncated (existing.evicted text n p limits)) := by
  cases h with
  | saturated => cases hchanged
  | nothing => cases hchanged
  | oversized => cases hchanged
  | @fitted _ _ result _ =>
    rcases outcomeOf_cases existing result (existing.evicted text n p limits) with
      ⟨hout, htold⟩ | ⟨-, -, htold⟩ | ⟨-, hne, htold⟩
    · exact Or.inr ⟨hout, htold⟩
    · rw [htold] at hchanged
      cases hchanged
    · exact Or.inl ⟨hne, htold⟩

/-- Lexemes are left out if there are too many, and then as many are kept as may be. -/
theorem size_of_truncated (h : Appending existing text n p limits r) (hv : existing.WellFormed)
    {k : Nat} (hout : 0 < existing.evicted text n p limits) (htold : r.outcome = .truncated k) :
    n < (existing.lexemesTogether text p limits).length ∧ r.vector.size = n := by
  have hsize := h.size_eq hv (by simp [htold]) (by simp [htold])
  rw [evicted_eq hv] at hout
  omega

end Appending

/-- **What counts as a change.** An append counts as a change if and only if it makes another vector or
says that it left lexemes out. This is the same as making another vector, unless lexemes have to be
left out and the existing vector has as many as are kept. -/
theorem changed_iff (existing : SearchVector) (text : List Char) (n : Nat) (p : Profile)
    (limits : IndexLimits) (hv : existing.WellFormed) :
    let r := existing.append text n p limits
    (r.outcome.changed = true ↔ r.vector ≠ existing ∨ ∃ k, r.outcome = .truncated k) ∧
    (existing.size ≠ n ∨ (existing.lexemesTogether text p limits).length ≤ n →
      (r.outcome.changed = true ↔ r.vector ≠ existing)) := by
  intro r
  have hcase : Appending existing text n p limits r := appending existing text n p limits
  have hmissed : r.vector ≠ existing → r.outcome.changed = true := by
    intro hne
    by_contra hsame
    exact hne (hcase.eq_of_not_changed hv (Bool.eq_false_iff.mpr hsame))
  refine ⟨⟨fun hchanged => ?_, ?_⟩, fun hroom => ⟨fun hchanged hsame => ?_, hmissed⟩⟩
  · rcases hcase.of_changed hchanged with ⟨hne, -⟩ | ⟨-, htold⟩
    · exact Or.inl hne
    · exact Or.inr ⟨_, htold⟩
  · rintro (hne | ⟨k, htold⟩)
    · exact hmissed hne
    · rw [htold]
      rfl
  · rcases hcase.of_changed hchanged with ⟨hne, -⟩ | ⟨hout, htold⟩
    · exact hne hsame
    · -- a truncated vector has another size than the existing one
      obtain ⟨hmany, hsize⟩ := hcase.size_of_truncated hv hout htold
      rw [hsame] at hsize
      rcases hroom with hne | hle
      · exact hne hsize
      · exact Nat.not_lt.mpr hle hmany

/-! ## A full vector -/

/-- The vector of one lexeme. -/
def oneLexeme : SearchVector := ⟨[⟨"a", [⟨1, .d⟩]⟩]⟩

theorem wellFormed_oneLexeme : oneLexeme.WellFormed := by
  decide

/-- An append of another lexeme when so many are to be kept. -/
abbrev appendToOne (n : Nat) : AppendResult :=
  oneLexeme.append "b".toList n Configuration.simple.profile IndexLimits.standard

/-- The new lexeme comes after the one that is there. -/
theorem combined_oneLexeme :
    oneLexeme.combined "b".toList Configuration.simple.profile IndexLimits.standard =
      ⟨[⟨"a", [⟨1, .d⟩]⟩, ⟨"b", [⟨2, .d⟩]⟩]⟩ := by
  have hincoming : incoming "b".toList Configuration.simple.profile IndexLimits.standard =
      ⟨[⟨"b", [⟨1, .d⟩]⟩]⟩ :=
    Profile.toVector_of_occurrences (by decide) (by decide)
  rw [combined, hincoming]
  simp [follow, concat, gather, settle, firstAtEachPlace, oneLexeme, IndexLimits.standard,
    Entry.before, Entry.latestPlace, Entry.latest?, Position.shift, Position.ofPlace, maxPosition,
    maxPlace, maxPositions]

/-- With room for both lexemes, the append counts as a change, and is one: the new
lexeme is there. -/
theorem changed_iff_room :
    (oneLexeme.lexemesTogether "b".toList Configuration.simple.profile
      IndexLimits.standard).length ≤ 2 ∧
    (appendToOne 2).outcome.changed = true ∧ (appendToOne 2).vector ≠ oneLexeme := by
  have hroom : (oneLexeme.lexemesTogether "b".toList Configuration.simple.profile
      IndexLimits.standard).length ≤ 2 := by
    rw [← size_combined wellFormed_oneLexeme, combined_oneLexeme]
    decide
  have hchanged : (appendToOne 2).outcome.changed = true := by
    rw [appendToOne, append_eq, evicted, kept, combined_oneLexeme]
    decide
  obtain ⟨-, hexact⟩ := changed_iff oneLexeme "b".toList 2 Configuration.simple.profile
    IndexLimits.standard wellFormed_oneLexeme
  exact ⟨hroom, hchanged, (hexact (Or.inr hroom)).mp hchanged⟩

/-- With room for one lexeme, the new one is left out and the vector is the same as before. -/
theorem appendToOne_full :
    appendToOne 1 = ⟨oneLexeme, .truncated 1, [.truncated, .vectorBytes 18]⟩ := by
  rw [appendToOne, append_eq, evicted, kept, combined_oneLexeme]
  decide

/-- The new lexeme is left out again, and the vector that was there counts as changed, because the
outcome tells of a lexeme that is left out. -/
theorem truncated_back :
    ¬ ((appendToOne 1).outcome.changed = true ↔ (appendToOne 1).vector ≠ oneLexeme) := by
  rw [appendToOne_full]
  exact fun h => h.mp rfl rfl

end EventIntake.SearchVector
