import EventIntake.Url.Basic

/-!
# The characters of a URL that count

Blanks around a URL and line breaks in it are passed over. A character that is neither keeps apart
what is before it and what is behind it: which characters of each count does not depend on the other
(`significant_split`). The mark before a query or a fragment is such a character, and nothing behind
it is read, so a URL says the same with any query and any fragment (`parse?_query`).
-/

namespace EventIntake.Url

variable {p : List Char} {c c₁ c₂ : Char}

/-- The characters that count before one that does. -/
def significantStart (cs : List Char) : List Char :=
  (cs.dropWhile isOuterBlank).filter (!isInnerBlank ·)

/-- The characters that count behind one that does. -/
def significantEnd (cs : List Char) : List Char :=
  (cs.reverse.dropWhile isOuterBlank).reverse.filter (!isInnerBlank ·)

/-- Before and behind a character that is not passed over, the characters count that would there
whatever is on the other side. -/
theorem significant_split (houter : isOuterBlank c = false) (hinner : isInnerBlank c = false)
    (before after : List Char) :
    significant (before ++ c :: after) = significantStart before ++ c :: significantEnd after := by
  have hstop (l : List Char) : (c :: l).dropWhile isOuterBlank = c :: l :=
    List.dropWhile_cons_of_neg (by rw [houter]; exact Bool.false_ne_true)
  -- dropping from the left ends at this character, and so does dropping from the right
  have hdrop (l l' : List Char) : (l ++ c :: l').dropWhile isOuterBlank =
      l.dropWhile isOuterBlank ++ c :: l' := by
    rw [List.dropWhile_append]
    split
    · rename_i hempty
      rw [hstop, List.isEmpty_iff.mp hempty, List.nil_append]
    · rfl
  have hright : ((before.dropWhile isOuterBlank ++ c :: after).reverse.dropWhile
      isOuterBlank).reverse =
      before.dropWhile isOuterBlank ++ c :: (after.reverse.dropWhile isOuterBlank).reverse := by
    rw [List.reverse_append, List.reverse_cons, List.append_assoc, List.singleton_append, hdrop]
    simp
  rw [significant, hdrop, hright, List.filter_append,
    List.filter_cons_of_pos (by rw [hinner]; rfl), significantStart, significantEnd]

/-! ## Queries and fragments -/

theorem beginsQuery_ok (hc : beginsQuery c = true) :
    isOuterBlank c = false ∧ isInnerBlank c = false := by
  rw [beginsQuery, Bool.or_eq_true, beq_iff_eq, beq_iff_eq] at hc
  rcases hc with rfl | rfl
  · exact ⟨rfl, rfl⟩
  · exact ⟨rfl, rfl⟩

/-- With a query, what is read is what counts before it. -/
theorem significant_query (hp : ∀ x ∈ p, beginsQuery x = false) (hc : beginsQuery c = true)
    (q : List Char) :
    (significant (p ++ c :: q)).takeWhile (!beginsQuery ·) = significantStart p ∧
      (significant (p ++ c :: q)).any beginsQuery = true := by
  have hstart : ∀ x ∈ significantStart p, (!beginsQuery x) = true := by
    intro x hx
    rw [hp x ((List.dropWhile_sublist _).mem (List.mem_filter.mp hx).1)]
    rfl
  obtain ⟨houter, hinner⟩ := beginsQuery_ok hc
  rw [significant_split houter hinner]
  constructor
  · rw [List.takeWhile_append_of_pos hstart, List.takeWhile_cons_of_neg (by rw [hc]; decide),
      List.append_nil]
  · rw [List.any_append, List.any_cons, hc, Bool.true_or, Bool.or_true]

/-- A URL says the same whatever its query or fragment is. -/
theorem parse?_query (hp : ∀ x ∈ p, beginsQuery x = false) (h₁ : beginsQuery c₁ = true)
    (h₂ : beginsQuery c₂ = true) (q₁ q₂ : List Char) :
    parse? (p ++ c₁ :: q₁) = parse? (p ++ c₂ :: q₂) := by
  obtain ⟨htext₁, hany₁⟩ := significant_query hp h₁ q₁
  obtain ⟨htext₂, hany₂⟩ := significant_query hp h₂ q₂
  rw [parse?, parse?]
  dsimp only
  rw [htext₁, htext₂, hany₁, hany₂]

end EventIntake.Url
