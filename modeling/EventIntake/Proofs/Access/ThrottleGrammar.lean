import EventIntake.Proofs.Access.Remembering

/-!
# How throttle states are written

A throttle state has many texts: a rate may begin with a plus sign and with any number of zeros, and
two rates of 0 may be left out. `Spells` says which texts are a rate, and a text is read as a state
exactly if it is a bare `t`, or two such texts behind it, each after a colon. None of them is the code
of an unauthorized pair, so a code is of one kind of rejection at most (`parse_written`).
-/

namespace EventIntake

namespace ThrottleState

variable {cs : List Char} {rate : UInt8}

/-! ## Rates -/

/-- A text spells a rate: it consists of digits, perhaps after a plus sign, and the rate is their
value. -/
def Spells (cs : List Char) (rate : UInt8) : Prop :=
  ∃ sign digits, cs = sign ++ digits ∧ (sign = [] ∨ sign = ['+']) ∧ digits ≠ [] ∧
    (∀ c ∈ digits, c.isDigit = true) ∧ Nat.ofDigitChars 10 digits 0 = rate.toNat

/-- The digits of a rate are read one by one, each with a check for overflow. So a rate is read of
its spellings and of nothing else. -/
theorem parseRate_eq_some_iff : parseRate cs = some rate ↔ Spells cs rate := by
  constructor
  · intro h
    rw [parseRate.eq_def] at h
    split at h
    next digits => exact ⟨['+'], digits, rfl, .inr rfl, rateOfDigits?_eq_some_iff.mp h⟩
    next => exact ⟨[], cs, rfl, .inl rfl, rateOfDigits?_eq_some_iff.mp h⟩
  · rintro ⟨sign, digits, rfl, rfl | rfl, hdigits⟩
    · rw [List.nil_append, parseRate, rateOfDigits?_eq_some_iff]
      · exact hdigits
      -- a plus sign is no digit
      · rintro rest rfl
        exact absurd (hdigits.2.1 '+' List.mem_cons_self) (by decide)
    · exact rateOfDigits?_eq_some_iff.mpr hdigits

theorem Spells.colon_not_mem (h : Spells cs rate) : ':' ∉ cs := by
  obtain ⟨sign, digits, rfl, hsign, -, hdigits, -⟩ := h
  rw [List.mem_append, not_or]
  refine ⟨?_, fun hc => absurd (hdigits ':' hc) (by decide)⟩
  rcases hsign with rfl | rfl
  · exact List.not_mem_nil
  · decide

/-! ## States -/

theorem splitOn_rates {a b : List Char} (ha : ':' ∉ a) (hb : ':' ∉ b) :
    ("t:".toList ++ a ++ ":".toList ++ b).splitOn ':' = [['t'], a, b] := by
  have htext : "t:".toList ++ a ++ ":".toList ++ b = [':'].intercalate [['t'], a, b] := by
    simp [List.intercalate]
  rw [htext, List.splitOn_intercalate ':' ?_ (List.cons_ne_nil _ _)]
  intro part hpart
  simp only [List.mem_cons, List.not_mem_nil, or_false] at hpart
  rcases hpart with rfl | rfl | rfl
  · decide
  · exact ha
  · exact hb

/-- A state is written as the mark alone, for no rates, or as the mark with both rates behind it. -/
theorem parse_eq_some_iff {s : String} {state : ThrottleState} :
    parse s = some state ↔
      (s = "t" ∧ state = ⟨0, 0⟩) ∨
        ∃ a b : String, s = "t:" ++ a ++ ":" ++ b ∧
          Spells a.toList state.organizationRate ∧ Spells b.toList state.projectRate := by
  constructor
  · intro h
    -- the parts with colons between them are the text
    have hjoin : [':'].intercalate (s.toList.splitOn ':') = s.toList :=
      List.intercalate_splitOn ':'
    rw [parse] at h
    split at h
    next hparts =>
      rw [hparts] at hjoin
      exact .inl ⟨String.toList_inj.mp hjoin.symm, (Option.some.inj h).symm⟩
    next a b hparts =>
      rw [hparts] at hjoin
      obtain ⟨organization, ha, h⟩ := Option.bind_eq_some_iff.mp h
      obtain ⟨project, hb, h⟩ := Option.bind_eq_some_iff.mp h
      cases h
      refine .inr ⟨.ofList a, .ofList b, String.toList_inj.mp ?_, ?_, ?_⟩
      · rw [← hjoin]
        simp [List.intercalate]
      · rw [String.toList_ofList]
        exact parseRate_eq_some_iff.mp ha
      · rw [String.toList_ofList]
        exact parseRate_eq_some_iff.mp hb
    next => cases h
  · rintro (⟨rfl, rfl⟩ | ⟨a, b, rfl, ha, hb⟩)
    · rfl
    · rw [parse, String.toList_append, String.toList_append, String.toList_append,
        splitOn_rates ha.colon_not_mem hb.colon_not_mem]
      simp only [parseRate_eq_some_iff.mpr ha, parseRate_eq_some_iff.mpr hb]
      rfl

end ThrottleState

/-! ## Codes -/

namespace RejectionCache

variable {retryAfter seconds : Nat} {code : String} {state : ThrottleState}

/-- The code of an unauthorized pair is not the text of a state. -/
theorem parse_unauthorizedCode : ThrottleState.parse unauthorizedCode = none := rfl

/-- Only the code for it says that a key is unknown, and no state can be taken for that code. -/
theorem decode_eq_unauthorized_iff :
    decode retryAfter code = some .unauthorized ↔ code = unauthorizedCode := by
  rw [decode]
  by_cases hcode : code = unauthorizedCode
  · rw [if_pos hcode]
    exact iff_of_true rfl hcode
  · rw [if_neg hcode, Option.map_eq_some_iff]
    refine iff_of_false ?_ hcode
    rintro ⟨_, -, h⟩
    cases h

/-- A code says that events are throttled if and only if it is a state. How long to wait is not part
of the code. -/
theorem decode_eq_throttled_iff :
    decode retryAfter code = some (.throttled seconds state) ↔
      seconds = retryAfter ∧ ThrottleState.parse code = some state := by
  rw [decode]
  by_cases hcode : code = unauthorizedCode
  · rw [if_pos hcode, hcode, parse_unauthorizedCode]
    constructor
    · intro h
      cases h
    · rintro ⟨-, h⟩
      cases h
  · rw [if_neg hcode, Option.map_eq_some_iff]
    constructor
    · rintro ⟨_, hparse, h⟩
      cases h
      exact ⟨rfl, hparse⟩
    · rintro ⟨rfl, hparse⟩
      exact ⟨state, hparse, rfl⟩

end RejectionCache

namespace ThrottleState

open RejectionCache (decode unauthorizedCode)

/-- **How throttle states are written.** A text is read as a state exactly if it is `t` and both rates
are 0, or if it is `t:`, a text that spells the rate of the organization, a colon, and a text that
spells the rate of the project. What is printed of a state is such a text. The code of an unauthorized
pair is none, so a code is read as unauthorized exactly if it is that code, and as throttled exactly if
it is the text of the state. -/
theorem parse_written :
    (∀ s state, parse s = some state ↔
      (s = "t" ∧ state = ⟨0, 0⟩) ∨
        ∃ a b : String, s = "t:" ++ a ++ ":" ++ b ∧
          Spells a.toList state.organizationRate ∧ Spells b.toList state.projectRate) ∧
    (∀ state : ThrottleState, parse state.text = some state) ∧
    parse unauthorizedCode = none ∧
    (∀ retryAfter code, decode retryAfter code = some .unauthorized ↔ code = unauthorizedCode) ∧
    ∀ retryAfter code seconds state, decode retryAfter code = some (.throttled seconds state) ↔
      seconds = retryAfter ∧ parse code = some state :=
  ⟨fun _ _ => parse_eq_some_iff, parse_text, RejectionCache.parse_unauthorizedCode,
    fun _ _ => RejectionCache.decode_eq_unauthorized_iff,
    fun _ _ _ _ => RejectionCache.decode_eq_throttled_iff⟩

/-- Zeros in front do not count as digits too many, however many there are. -/
example : parse "t:+000000030:255" = some ⟨30, 255⟩ := by cbv

end ThrottleState

end EventIntake
