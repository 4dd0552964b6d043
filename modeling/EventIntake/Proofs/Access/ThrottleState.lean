import EventIntake.Access.ThrottleState

/-!
# Throttle states are read back

A rate is read digit by digit, and given up as soon as it gets greater than 255. As a number does not
get smaller with one digit more, exactly the digits of a number up to 255 are read, however many zeros
they begin with (`rateOfDigits?_eq_some_iff`). So every throttle state is read back from its text
(`parse_text`).
-/

namespace EventIntake.ThrottleState

/-! ## Digits -/

/-- Reading on never makes a number smaller, so an overflow cannot be undone by later digits. -/
theorem le_ofDigitChars (n : Nat) (digits : List Char) : n ≤ Nat.ofDigitChars 10 digits n := by
  induction digits generalizing n with
  | nil => exact Nat.le_refl n
  | cons c digits ih =>
    rw [Nat.ofDigitChars_cons]
    have hstep : n ≤ 10 * n + (c.toNat - '0'.toNat) := by omega
    exact Nat.le_trans hstep (ih _)

theorem addDigit_eq_some_iff {rate next : UInt8} {c : Char} :
    addDigit rate c = some next ↔
      c.isDigit = true ∧ 10 * rate.toNat + (c.toNat - '0'.toNat) = next.toNat := by
  have hnext := next.toNat_lt
  rw [addDigit]
  by_cases hc : c.isDigit = true
  · rw [if_pos hc]
    dsimp only
    generalize 10 * rate.toNat + (c.toNat - '0'.toNat) = n
    by_cases hn : n ≤ 255
    · have hvalue : n.toUInt8.toNat = n := UInt8.toNat_ofNat_of_lt' (Nat.lt_succ_of_le hn)
      rw [if_pos hn, Option.some.injEq, ← UInt8.toNat_inj, hvalue]
      exact (and_iff_right hc).symm
    · rw [if_neg hn]
      exact ⟨nofun, fun h => absurd h.2 (by omega)⟩
  · rw [if_neg hc]
    exact ⟨nofun, fun h => absurd h.1 hc⟩

/-- Digits are read after a rate exactly if the number with them is still a rate. The induction is
on the digits; an overflow in between stays one, since numbers only grow. -/
theorem foldlM_addDigit_eq_some_iff {rate n : UInt8} {digits : List Char} :
    digits.foldlM addDigit rate = some n ↔
      (∀ c ∈ digits, c.isDigit = true) ∧ Nat.ofDigitChars 10 digits rate.toNat = n.toNat := by
  induction digits generalizing rate with
  | nil =>
    have hnone : ∀ c ∈ ([] : List Char), c.isDigit = true := fun _ hc => nomatch hc
    rw [List.foldlM_nil, Nat.ofDigitChars_nil, UInt8.toNat_inj, Option.pure_def, Option.some.injEq]
    exact (and_iff_right hnone).symm
  | cons c digits ih =>
    simp only [List.foldlM_cons, Option.bind_eq_bind, Option.bind_eq_some_iff, addDigit_eq_some_iff,
      ih, Nat.ofDigitChars_cons, List.forall_mem_cons]
    constructor
    · rintro ⟨next, ⟨hc, hnext⟩, hdigits, hvalue⟩
      rw [hnext]
      exact ⟨⟨hc, hdigits⟩, hvalue⟩
    · rintro ⟨⟨hc, hdigits⟩, hvalue⟩
      -- no digit on the way makes the number greater than it is in the end
      have hle := le_ofDigitChars (10 * rate.toNat + (c.toNat - '0'.toNat)) digits
      have hn := n.toNat_lt
      have hnext : (10 * rate.toNat + (c.toNat - '0'.toNat)).toUInt8.toNat =
          10 * rate.toNat + (c.toNat - '0'.toNat) := UInt8.toNat_ofNat_of_lt' (by
            rw [hvalue] at hle
            exact Nat.lt_of_le_of_lt hle hn)
      exact ⟨_, ⟨hc, hnext.symm⟩, hdigits, by rw [hnext, hvalue]⟩

/-- Digits are read as a rate exactly if there are any and they spell the rate. -/
theorem rateOfDigits?_eq_some_iff {digits : List Char} {rate : UInt8} :
    rateOfDigits? digits = some rate ↔
      digits ≠ [] ∧ (∀ c ∈ digits, c.isDigit = true) ∧
        Nat.ofDigitChars 10 digits 0 = rate.toNat := by
  rw [rateOfDigits?]
  cases digits with
  | nil => exact ⟨nofun, fun h => absurd rfl h.1⟩
  | cons c digits =>
    rw [List.isEmpty_cons, if_neg Bool.false_ne_true, foldlM_addDigit_eq_some_iff]
    exact (and_iff_right (List.cons_ne_nil c digits)).symm

/-! ## Texts of states -/

theorem not_mem_toDigits {c : Char} (h : c.isDigit = false) (n : Nat) : c ∉ Nat.toDigits 10 n :=
  fun hc => Bool.false_ne_true
    (h.symm.trans (Nat.isDigit_of_mem_toDigits (by decide) (by decide) hc))

/-- The digits of a rate are read as the rate. -/
theorem rateOfDigits?_toDigits (rate : UInt8) :
    rateOfDigits? (Nat.toDigits 10 rate.toNat) = some rate :=
  rateOfDigits?_eq_some_iff.mpr
    ⟨Nat.toDigits_ne_nil, fun _ hc => Nat.isDigit_of_mem_toDigits (by decide) (by decide) hc,
      Nat.ofDigitChars_ten_toDigits⟩

theorem parseRate_toDigits (rate : UInt8) : parseRate (Nat.toDigits 10 rate.toNat) = some rate := by
  rw [← rateOfDigits?_toDigits rate, parseRate]
  -- a rate is not written with a plus sign
  intro digits hplus
  refine absurd ?_ (not_mem_toDigits (c := '+') rfl rate.toNat)
  rw [hplus]
  exact List.mem_cons_self

/-- Every throttle state is read back from its text. The digits of a rate hold no colon, so the text
is split where the rates meet. -/
theorem parse_text (s : ThrottleState) : parse s.text = some s := by
  have htext : s.text.toList = [':'].intercalate
      [['t'], Nat.toDigits 10 s.organizationRate.toNat, Nat.toDigits 10 s.projectRate.toNat] := by
    simp only [text, String.toList_append, Nat.toString_eq_ofList_toDigits, String.toList_ofList]
    simp [List.intercalate]
  rw [parse, htext, List.splitOn_intercalate ':' ?_ (List.cons_ne_nil _ _)]
  · simp only [parseRate_toDigits]
    rfl
  · intro part hpart
    simp only [List.mem_cons, List.not_mem_nil, or_false] at hpart
    rcases hpart with rfl | rfl | rfl
    · decide
    · exact not_mem_toDigits rfl _
    · exact not_mem_toDigits rfl _

end EventIntake.ThrottleState
