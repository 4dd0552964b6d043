import EventIntake.Access.Authenticator
import EventIntake.Proofs.Access.ThrottleState

/-!
# Remembered rejections

What is remembered about a pair is what was remembered about it last, unless it was lost
(`code?_remember`, `code?_forget`). A rejection is read back from its code, given the seconds that a
throttled client has to wait, which the code leaves out (`decode_of_encode`). So a rejection that has
just been remembered is found again as it was (`get?_remember`).
-/

namespace EventIntake.RejectionCache

variable {cache : RejectionCache} {projectId : Nat} {key : PublicKey} {r : Rejection} {code : String}

/-! ## Look-up -/

/-- A pair that is lost has no code any more, and every other one has the code it had. -/
theorem code?_forget (cache : RejectionCache) (lost : Nat × PublicKey → Bool) (projectId : Nat)
    (key : PublicKey) :
    (cache.forget lost).code? projectId key =
      if lost (projectId, key) then none else cache.code? projectId key := by
  rw [code?, code?, forget, List.find?_filter]
  by_cases hlost : lost (projectId, key) = true
  · rw [if_pos hlost, Option.map_eq_none_iff, List.find?_eq_none]
    rintro entry - hentry
    obtain ⟨hkept, hpair⟩ := of_decide_eq_true hentry
    rw [of_decide_eq_true hpair, hlost] at hkept
    cases hkept
  · rw [if_neg hlost]
    refine congrArg (Option.map Prod.snd <| List.find? · cache) (funext fun entry => ?_)
    by_cases hpair : entry.1 = (projectId, key)
    · simp [hpair, hlost]
    · simp [hpair]

theorem code?_cons (entry : (Nat × PublicKey) × String) (cache : RejectionCache) (projectId : Nat)
    (key : PublicKey) :
    code? (entry :: cache) projectId key =
      if entry.1 = (projectId, key) then some entry.2 else cache.code? projectId key := by
  rw [code?]
  by_cases hpair : entry.1 = (projectId, key)
  · rw [if_pos hpair, List.find?_cons_of_pos (by exact decide_eq_true hpair), Option.map_some]
  · rw [if_neg hpair, List.find?_cons_of_neg (by exact fun heq => hpair (of_decide_eq_true heq)),
      code?]

/-- A rejection that has a code is remembered for its pair and for no other. -/
theorem code?_remember (h : encode r = some code) (cache : RejectionCache) (projectId : Nat)
    (key : PublicKey) (pair : Nat × PublicKey) :
    (cache.remember projectId key r).code? pair.1 pair.2 =
      if pair = (projectId, key) then some code else cache.code? pair.1 pair.2 := by
  simp only [remember, h, code?_cons, code?_forget, decide_eq_true_eq]
  by_cases hpair : pair = (projectId, key)
  · simp [hpair]
  · simp [hpair, Ne.symm hpair]

theorem get?_forget (cache : RejectionCache) (lost : Nat × PublicKey → Bool)
    (retryAfter projectId : Nat) (key : PublicKey) :
    (cache.forget lost).get? retryAfter projectId key =
      if lost (projectId, key) then none else cache.get? retryAfter projectId key := by
  rw [get?, code?_forget]
  split <;> rfl

/-! ## Codes -/

/-- A rejection that is of a kind to be remembered is read back from its code, given the seconds that
a throttled client has to wait. -/
theorem decode_of_encode {retryAfter : Nat} (h : encode r = some code)
    (hretry : ∀ seconds, r.retryAfter? = some seconds → seconds = retryAfter) :
    decode retryAfter code = some r := by
  cases r with
  | unauthorized =>
    cases h
    exact if_pos rfl
  | throttled seconds state =>
    cases h
    obtain rfl := hretry seconds rfl
    have hparse : ThrottleState.parse state.text = some state := ThrottleState.parse_text state
    have hne : state.text ≠ unauthorizedCode := by
      intro hcode
      rw [hcode] at hparse
      cases hparse
    rw [decode, if_neg hne, hparse]
    rfl
  | maintenance => cases h

/-- A rejection that has just been remembered is found again, and what is remembered about other
pairs stays. -/
theorem get?_remember {retryAfter : Nat} (h : encode r = some code)
    (hretry : ∀ seconds, r.retryAfter? = some seconds → seconds = retryAfter)
    (cache : RejectionCache) (projectId : Nat) (key : PublicKey) (pair : Nat × PublicKey) :
    (cache.remember projectId key r).get? retryAfter pair.1 pair.2 =
      if pair = (projectId, key) then some r else cache.get? retryAfter pair.1 pair.2 := by
  rw [get?, code?_remember h]
  split
  · exact decode_of_encode h hretry
  · rfl

end EventIntake.RejectionCache
