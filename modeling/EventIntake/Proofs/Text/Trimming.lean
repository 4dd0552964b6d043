import EventIntake.Text.Blank
import Mathlib.Data.List.TakeWhile

/-!
# What trimming leaves

Trimming does not see the blanks on either side of a text (`trim_append_left`, `trim_append_right`),
and they are all that it takes off (`exists_trim`): a text that neither begins nor ends with a blank
is left as it is (`Trimmed.trim_eq`).
-/

namespace EventIntake.Text

variable {cs ds : List Char}

/-- A text of blanks, perhaps of none. -/
def Blanks (cs : List Char) : Prop :=
  ∀ c ∈ cs, isBlank c = true

/-- A text without blanks. -/
def Unbroken (cs : List Char) : Prop :=
  ∀ c ∈ cs, isBlank c = false

/-- A text that neither begins nor ends with a blank. -/
structure Trimmed (cs : List Char) : Prop where
  head : ∀ c ∈ cs.head?, isBlank c = false
  last : ∀ c ∈ cs.getLast?, isBlank c = false

instance : Decidable (Blanks cs) :=
  decidable_of_iff (cs.all isBlank = true) List.all_eq_true

instance : Decidable (Unbroken cs) :=
  decidable_of_iff (cs.all (!isBlank ·) = true) (by simp [Unbroken])

instance : Decidable (Trimmed cs) :=
  decidable_of_iff (cs.head?.all (!isBlank ·) = true ∧ cs.getLast?.all (!isBlank ·) = true) (by
    simp only [Option.all_eq_true, Bool.not_eq_true']
    exact ⟨fun h => ⟨h.1, h.2⟩, fun h => ⟨h.head, h.last⟩⟩)

/-- The letters and digits of ASCII have three ranges of codes, none of which has a blank in it. -/
theorem toNat_of_isAlphanum {c : Char} (h : c.isAlphanum = true) :
    65 ≤ c.toNat ∧ c.toNat ≤ 90 ∨ 97 ≤ c.toNat ∧ c.toNat ≤ 122 ∨ 48 ≤ c.toNat ∧ c.toNat ≤ 57 := by
  rcases Bool.or_eq_true_iff.mp h with halpha | hdigit
  · rcases Bool.or_eq_true_iff.mp halpha with hupper | hlower
    · exact .inl (of_decide_eq_true hupper)
    · obtain ⟨hge, hle⟩ := Bool.and_eq_true_iff.mp hlower
      exact .inr (.inl ⟨of_decide_eq_true hge, of_decide_eq_true hle⟩)
  · exact .inr (.inr (Char.isDigit_iff_toNat.mp hdigit))

theorem Blanks.reverse (h : Blanks cs) : Blanks cs.reverse :=
  fun c hc => h c (List.mem_reverse.mp hc)

theorem Blanks.not_mem (h : Blanks cs) {c : Char} (hc : isBlank c = false) : c ∉ cs :=
  fun hmem => Bool.false_ne_true (hc.symm.trans (h c hmem))

/-- A text without blanks has none at its ends. -/
theorem Unbroken.trimmed (h : Unbroken cs) : Trimmed cs :=
  ⟨fun c hc => h c (List.mem_of_mem_head? hc), fun c hc => h c (List.mem_of_getLast? hc)⟩

theorem dropWhile_of_head (h : ∀ c ∈ cs.head?, isBlank c = false) : cs.dropWhile isBlank = cs := by
  cases cs with
  | nil => rfl
  | cons c cs => exact List.dropWhile_cons_of_neg (by rw [h c rfl]; exact Bool.false_ne_true)

/-! ## The right end -/

theorem trimRight_append_right (cs : List Char) (h : Blanks ds) :
    trimRight (cs ++ ds) = trimRight cs := by
  rw [trimRight, trimRight, List.reverse_append, List.dropWhile_append_of_pos h.reverse]

/-- Characters that are not blank are kept, and what follows them is trimmed as if it stood alone. -/
theorem Unbroken.trimRight_append (h : Unbroken cs) (ds : List Char) :
    trimRight (cs ++ ds) = cs ++ trimRight ds := by
  have hkept : cs.reverse.dropWhile isBlank = cs.reverse :=
    dropWhile_of_head fun c hc => h c (List.mem_reverse.mp (List.mem_of_mem_head? hc))
  rw [trimRight, trimRight, List.reverse_append, List.dropWhile_append]
  split
  next hempty => rw [hkept, List.isEmpty_iff.mp hempty, List.reverse_reverse, List.reverse_nil,
    List.append_nil]
  next => rw [List.reverse_append, List.reverse_reverse]

/-- A text is what is left of it, with blanks behind. -/
theorem exists_trimRight (cs : List Char) : ∃ after, Blanks after ∧ trimRight cs ++ after = cs := by
  refine ⟨(cs.reverse.takeWhile isBlank).reverse, ?_, ?_⟩
  · exact fun c hc => List.mem_takeWhile_imp (List.mem_reverse.mp hc)
  · rw [trimRight, ← List.reverse_append, List.takeWhile_append_dropWhile, List.reverse_reverse]

/-! ## Both ends -/

/-- Blanks before a text are not seen. -/
theorem trim_append_left (h : Blanks cs) (ds : List Char) : trim (cs ++ ds) = trim ds := by
  rw [trim, trim, trimLeft, trimLeft, List.dropWhile_append_of_pos h]

/-- Blanks behind a text are not seen, even if the text has no other characters itself. -/
theorem trim_append_right (cs : List Char) (h : Blanks ds) : trim (cs ++ ds) = trim cs := by
  rw [trim, trim, trimLeft, trimLeft, List.dropWhile_append]
  split
  next hempty => rw [List.dropWhile_eq_nil_iff.mpr h, List.isEmpty_iff.mp hempty]
  next => exact trimRight_append_right _ h

/-- A text is what is left of it, with blanks before and behind. -/
theorem exists_trim (cs : List Char) :
    ∃ before after, Blanks before ∧ Blanks after ∧ before ++ (trim cs ++ after) = cs := by
  obtain ⟨after, hafter, hright⟩ := exists_trimRight (trimLeft cs)
  refine ⟨cs.takeWhile isBlank, after, fun c hc => List.mem_takeWhile_imp hc, hafter, ?_⟩
  rw [trim, hright, trimLeft, List.takeWhile_append_dropWhile]

/-- A text with no blank at either end is left as it is, with whatever blanks are inside it. -/
theorem Trimmed.trim_eq (h : Trimmed cs) : trim cs = cs := by
  rw [trim, trimLeft, dropWhile_of_head h.head, trimRight, dropWhile_of_head, List.reverse_reverse]
  rw [List.head?_reverse]
  exact h.last

/-- A word is kept, and what follows it is trimmed as if it stood alone. -/
theorem Unbroken.trim_append (h : Unbroken cs) (hne : cs ≠ []) (ds : List Char) :
    trim (cs ++ ds) = cs ++ trimRight ds := by
  rw [trim, trimLeft, dropWhile_of_head, h.trimRight_append]
  intro c hc
  rw [List.head?_append, List.head?_eq_some_head hne] at hc
  exact h c (Option.some.inj hc ▸ List.head_mem hne)

end EventIntake.Text
