import EventIntake.Proofs.Event.Parts
import EventIntake.Proofs.Url.Significant

/-!
# No queries in the search text

A query may hold a password, and a fragment a token, so neither may get into the search text. There are
two ways a URL gets there: as what was read of it, or, if nothing can be read, as it is written. Both
end where the first question mark or number sign stands, and so does the test for a slash at the end
(`simplifyUrl_query`). So events whose URLs differ in what comes behind that have the same search text,
whether their URLs can be read or not (`searchText_query`).
-/

namespace EventIntake.Event

variable {p : List Char} {c₁ c₂ : Char}

theorem beginsQuery_iff {c : Char} : Url.beginsQuery c = true ↔ c = '?' ∨ c = '#' := by
  rw [Url.beginsQuery, Bool.or_eq_true, beq_iff_eq, beq_iff_eq]

/-- What is written before a query is what is written before the mark that begins it. -/
theorem withoutQuery_append (hp : ∀ x ∈ p, Url.beginsQuery x = false)
    (hc : Url.beginsQuery c₁ = true) (q : List Char) : withoutQuery (p ++ c₁ :: q) = p := by
  have hkeep : ∀ x ∈ p, (!Url.beginsQuery x) = true := by
    intro x hx
    rw [hp x hx]
    rfl
  rw [withoutQuery, List.takeWhile_append_of_pos hkeep,
    List.takeWhile_cons_of_neg (by rw [hc]; decide), List.append_nil]

/-- A URL becomes the same part of the text whatever its query or fragment is. -/
theorem simplifyUrl_query (hp : ∀ x ∈ p, Url.beginsQuery x = false)
    (h₁ : Url.beginsQuery c₁ = true) (h₂ : Url.beginsQuery c₂ = true) (q₁ q₂ : List Char) :
    simplifyUrl (p ++ c₁ :: q₁) = simplifyUrl (p ++ c₂ :: q₂) := by
  rw [simplifyUrl, simplifyUrl, withoutQuery_append hp h₁, withoutQuery_append hp h₂,
    Url.parse?_query hp h₁ h₂ q₁ q₂]

/-- **Queries and fragments.** Two events that differ in nothing but what follows the first question
mark or number sign of their URLs have the same search text. -/
theorem searchText_query (e : Event) (hp : ∀ x ∈ p, x ≠ '?' ∧ x ≠ '#')
    (h₁ : c₁ = '?' ∨ c₁ = '#') (h₂ : c₂ = '?' ∨ c₂ = '#') (q₁ q₂ : List Char) :
    { e with url := some (p ++ c₁ :: q₁) }.searchText =
      { e with url := some (p ++ c₂ :: q₂) }.searchText := by
  have hbefore : ∀ x ∈ p, Url.beginsQuery x = false := by
    intro x hx
    rw [← Bool.not_eq_true, beginsQuery_iff, not_or]
    exact hp x hx
  exact searchText_congr e
    (simplifyUrl_query hbefore (beginsQuery_iff.mpr h₁) (beginsQuery_iff.mpr h₂) q₁ q₂)

/-- A password in the query of a URL whose port is none, and a fragment in its place. Neither URL
can be parsed, and what begins there is cut off all the same. -/
theorem searchText_query_login :
    (∀ x ∈ "https://shop.test:99999/login".toList, x ≠ '?' ∧ x ≠ '#') ∧
    { empty with
        url := some ("https://shop.test:99999/login".toList ++
          '?' :: "next=//user:secret@host/ #top".toList) }.searchText =
      { empty with
        url := some ("https://shop.test:99999/login".toList ++ '#' :: []) }.searchText := by
  have hbefore : ∀ x ∈ "https://shop.test:99999/login".toList, x ≠ '?' ∧ x ≠ '#' := by simp
  exact ⟨hbefore, searchText_query empty hbefore (.inl rfl) (.inr rfl) _ _⟩

end EventIntake.Event
