import EventIntake.Event.SearchText
import EventIntake.Proofs.Lists
import EventIntake.Proofs.Text.ByteOrder
import Mathlib.Data.List.Sort

/-!
# The parts of the search text

The parts are the excerpts of an event's fields without empty ones (`mem_searchParts`), in the order
of their bytes and each once (`pairwise_searchParts`), and that is all there is to know of them
(`searchParts_eq_of_pairwise`). So events with the same excerpts have the same search text
(`searchText_of_excerpts`).
-/

namespace EventIntake.Event

open EventIntake.Text (Utf8.encode Utf8.encode_lt_encode)

variable {e : Event} {x : List Char}

/-- What is taken from the fields of an event, in the order of the fields. -/
def excerpts (e : Event) : List (List Char) :=
  (e.title.map (·.take maxPart)).toList ++ (e.transaction.map (·.take maxPart)).toList ++
    (e.url.map simplifyUrl).toList ++ basenames e.exceptions

/-- Parts are made of excerpts in three steps: empty ones are left out, then repeated ones, and the
rest is sorted. -/
theorem searchParts_eq (e : Event) : e.searchParts =
    ((e.excerpts.filter (!·.isEmpty)).eraseDups).mergeSort fun a b => !b.lex a (· < ·) := rfl

theorem mem_searchParts : x ∈ e.searchParts ↔ x ∈ e.excerpts ∧ x ≠ [] := by
  rw [searchParts_eq, List.mem_mergeSort, List.mem_eraseDups, List.mem_filter, Bool.not_eq_true',
    List.isEmpty_eq_false_iff]

/-- The parts are in the order of their bytes, and no two are the same. Repeated excerpts are left
out before the sorting, which makes the order strict. -/
theorem pairwise_searchParts (e : Event) :
    e.searchParts.Pairwise fun a b => Utf8.encode a < Utf8.encode b := by
  have hlex (a b : List Char) : (!b.lex a (· < ·)) = true ↔ ¬b < a := by
    rw [Bool.not_eq_true', ← Bool.not_eq_true, List.lex_eq_true_iff_lt]
  have hnodup : e.searchParts.Nodup := by
    rw [searchParts_eq, (List.mergeSort_perm _ _).nodup_iff]
    exact nodup_eraseDups _
  have hsorted : e.searchParts.Pairwise fun a b => ¬b < a := by
    refine (List.pairwise_mergeSort ?_ ?_ _).imp fun h => (hlex _ _).mp h
    · intro a b c hab hbc
      rw [hlex] at hab hbc ⊢
      exact List.not_lt.mpr (List.le_trans (List.not_lt.mp hab) (List.not_lt.mp hbc))
    · intro a b
      rw [Bool.or_eq_true, hlex, hlex, List.not_lt, List.not_lt]
      exact List.le_total a b
  refine (hsorted.and hnodup).imp fun {a b} ⟨hle, hne⟩ => Utf8.encode_lt_encode ?_
  rcases Std.lt_trichotomy a b with hlt | heq | hgt
  · exact hlt
  · exact absurd heq hne
  · exact absurd hgt hle

/-- No other texts are in this order and the same. -/
theorem searchParts_eq_of_pairwise {parts : List (List Char)}
    (hsorted : parts.Pairwise fun a b => Utf8.encode a < Utf8.encode b)
    (hsome : ∀ x ∈ parts, x ∈ e.excerpts ∧ x ≠ []) (hall : ∀ x ∈ e.excerpts, x ≠ [] → x ∈ parts) :
    e.searchParts = parts :=
  (pairwise_searchParts e).eq_of_mem_iff hsorted fun x =>
    mem_searchParts.trans ⟨fun hx => hall x hx.1 hx.2, hsome x⟩

/-! ## Events with the same excerpts -/

/-- The search text depends on the excerpts only. Whatever else two events differ in does not
matter. -/
theorem searchText_of_excerpts {e₁ e₂ : Event} (h : e₁.excerpts = e₂.excerpts) :
    e₁.searchText = e₂.searchText := by
  rw [searchText, searchText, searchParts_eq, searchParts_eq, h]

/-- The URL of an event is in its search text only as that part. -/
theorem searchText_congr (e : Event) {url₁ url₂ : List Char}
    (h : simplifyUrl url₁ = simplifyUrl url₂) :
    { e with url := some url₁ }.searchText = { e with url := some url₂ }.searchText := by
  refine searchText_of_excerpts ?_
  simp only [excerpts, Option.map_some, h]

end EventIntake.Event
