import EventIntake.Access.Authenticator

/-!
# How an authentication goes

`Authenticating` lists the nine ways in which the authentication of an event can go, with everything
that comes of each, and every authentication goes in one of them (`authenticating`). An event comes
in only if the source has just answered with a context that lets events in (`source_of_accepted`).
-/

namespace EventIntake.AccessSettings

variable {s : AccessSettings} {source : Source} {cache : RejectionCache} {projectId : Nat}
  {rawKey : String} {draws : Draws} {a : Authentication} {c : Context}

/-! ## Decisions -/

/-- An organization that accepts no events is decided before any sample is drawn, and the rejection
may be remembered. -/
theorem decide_closed (hclosed : c.acceptsEvents = false) (draws : Draws) :
    s.decide (some c) draws = (.rejected (s.throttled c), true, draws, 0) := by
  rw [decide, hclosed]
  rfl

/-- Without a rate no sample is drawn, and an event that is accepted is not remembered. -/
theorem decide_unlimited (hopen : c.acceptsEvents = true) (hrate : c.rate = 0) (draws : Draws) :
    s.decide (some c) draws = (.accepted c, false, draws, 0) := by
  rw [decide, hopen]
  exact if_pos hrate

/-- Where there is a rate, one percentage is drawn, and the event is turned away if it is below. -/
theorem decide_sampled (hopen : c.acceptsEvents = true) (hrate : c.rate ≠ 0) (draws : Draws) :
    s.decide (some c) draws =
      (if draws.sample.1 < c.rate.toNat then .rejected (s.throttled c) else .accepted c, false,
        draws.sample.2.1, draws.sample.2.2) := by
  rw [decide, hopen]
  exact if_neg hrate

/-! ## The ways of an authentication -/

/-- Remembers a rejection, if rejections are remembered at all. -/
def rememberIn (s : AccessSettings) (cache : RejectionCache) (projectId : Nat) (key : PublicKey)
    (r : Rejection) : RejectionCache :=
  if s.remembers then cache.remember projectId key r else cache

/-- How the authentication of an event can go, and what comes of it. -/
inductive Authenticating (s : AccessSettings) (source : Source) (cache : RejectionCache)
    (projectId : Nat) (rawKey : String) (draws : Draws) : Authentication → Prop
  /-- all events are turned away -/
  | frozen (hfrozen : s.frozen = true) :
    Authenticating s source cache projectId rawKey draws
      ⟨.ok (.rejected .maintenance), cache, draws, 0, 0, [.rejected .maintenance]⟩
  /-- what is written is no key -/
  | malformed (hfrozen : s.frozen = false) (hkey : PublicKey.parse rawKey = none) :
    Authenticating s source cache projectId rawKey draws
      ⟨.ok (.rejected .unauthorized), cache, draws, 0, 0, [.rejected .unauthorized]⟩
  /-- a rejection is remembered -/
  | remembered (hfrozen : s.frozen = false) {key : PublicKey}
    (hkey : PublicKey.parse rawKey = some key) {r : Rejection}
    (hget : cache.get? s.retryAfter projectId key = some r) :
    Authenticating s source cache projectId rawKey draws
      ⟨.ok (.rejected r), cache, draws, 0, 0, [.cacheHit, .rejected r.reason]⟩
  /-- the source gives no answer -/
  | failed (hfrozen : s.frozen = false) {key : PublicKey}
    (hkey : PublicKey.parse rawKey = some key)
    (hget : cache.get? s.retryAfter projectId key = none) {e : SourceError}
    (hask : source projectId key = .error e) :
    Authenticating s source cache projectId rawKey draws
      ⟨.error e, cache, draws, 0, 1, [.cacheMiss, .resolved]⟩
  /-- the pair has no context -/
  | unknown (hfrozen : s.frozen = false) {key : PublicKey}
    (hkey : PublicKey.parse rawKey = some key)
    (hget : cache.get? s.retryAfter projectId key = none)
    (hask : source projectId key = .ok none) :
    Authenticating s source cache projectId rawKey draws
      ⟨.ok (.rejected .unauthorized), s.rememberIn cache projectId key .unauthorized, draws, 0, 1,
        [.cacheMiss, .resolved, .rejected .unauthorized]⟩
  /-- the organization lets no events in -/
  | closed (hfrozen : s.frozen = false) {key : PublicKey}
    (hkey : PublicKey.parse rawKey = some key)
    (hget : cache.get? s.retryAfter projectId key = none) {c : Context}
    (hask : source projectId key = .ok (some c)) (hclosed : c.acceptsEvents = false) :
    Authenticating s source cache projectId rawKey draws
      ⟨.ok (.rejected (s.throttled c)), s.rememberIn cache projectId key (s.throttled c), draws, 0, 1,
        [.cacheMiss, .resolved, .rejected .throttled]⟩
  /-- the rate is 0 -/
  | unlimited (hfrozen : s.frozen = false) {key : PublicKey}
    (hkey : PublicKey.parse rawKey = some key)
    (hget : cache.get? s.retryAfter projectId key = none) {c : Context}
    (hask : source projectId key = .ok (some c)) (hopen : c.acceptsEvents = true)
    (hrate : c.rate = 0) :
    Authenticating s source cache projectId rawKey draws
      ⟨.ok (.accepted c), cache, draws, 0, 1, [.cacheMiss, .resolved, .accepted]⟩
  /-- the draw is below the rate -/
  | throttled (hfrozen : s.frozen = false) {key : PublicKey}
    (hkey : PublicKey.parse rawKey = some key)
    (hget : cache.get? s.retryAfter projectId key = none) {c : Context}
    (hask : source projectId key = .ok (some c)) (hopen : c.acceptsEvents = true)
    (hrate : c.rate ≠ 0) (hdraw : draws.sample.1 < c.rate.toNat) :
    Authenticating s source cache projectId rawKey draws
      ⟨.ok (.rejected (s.throttled c)), cache, draws.sample.2.1, draws.sample.2.2, 1,
        [.cacheMiss, .resolved, .rejected .throttled]⟩
  /-- the draw is not below the rate -/
  | passed (hfrozen : s.frozen = false) {key : PublicKey}
    (hkey : PublicKey.parse rawKey = some key)
    (hget : cache.get? s.retryAfter projectId key = none) {c : Context}
    (hask : source projectId key = .ok (some c)) (hopen : c.acceptsEvents = true)
    (hrate : c.rate ≠ 0) (hdraw : ¬ draws.sample.1 < c.rate.toNat) :
    Authenticating s source cache projectId rawKey draws
      ⟨.ok (.accepted c), cache, draws.sample.2.1, draws.sample.2.2, 1,
        [.cacheMiss, .resolved, .accepted]⟩

/-- Every authentication goes in one of these ways. What is proved of authentications below is
proved for each of the ways, and the definition is not opened again. -/
theorem authenticating (s : AccessSettings) (source : Source) (cache : RejectionCache)
    (projectId : Nat) (rawKey : String) (draws : Draws) :
    Authenticating s source cache projectId rawKey draws
      (s.authenticate source cache projectId rawKey draws) := by
  rw [authenticate]
  by_cases hfrozen : s.frozen = true
  · rw [if_pos hfrozen]
    exact .frozen hfrozen
  · rw [if_neg hfrozen]
    have hfrozen : s.frozen = false := Bool.eq_false_iff.mpr hfrozen
    rcases hkey : PublicKey.parse rawKey with _ | key
    · exact .malformed hfrozen hkey
    · rcases hget : cache.get? s.retryAfter projectId key with _ | r
      · simp only [hget, ask]
        rcases hask : source projectId key with e | _ | c
        · exact .failed hfrozen hkey hget hask
        · exact .unknown hfrozen hkey hget hask
        · rcases hopen : c.acceptsEvents with _ | _
          · simp only [decide_closed hopen]
            exact .closed hfrozen hkey hget hask hopen
          · by_cases hrate : c.rate = 0
            · simp only [decide_unlimited hopen hrate]
              exact .unlimited hfrozen hkey hget hask hopen hrate
            · simp only [decide_sampled hopen hrate]
              by_cases hdraw : draws.sample.1 < c.rate.toNat
              · simp only [if_pos hdraw]
                exact .throttled hfrozen hkey hget hask hopen hrate hdraw
              · simp only [if_neg hdraw]
                exact .passed hfrozen hkey hget hask hopen hrate hdraw
      · simp only [hget]
        exact .remembered hfrozen hkey hget

/-- An event comes in only if the source has just answered with the context, and the context lets
events in. -/
theorem source_of_accepted
    (h : (s.authenticate source cache projectId rawKey draws).result = .ok (.accepted c)) :
    ∃ key, PublicKey.parse rawKey = some key ∧ source projectId key = .ok (some c) ∧
      c.acceptsEvents = true := by
  have ha := authenticating s source cache projectId rawKey draws
  generalize s.authenticate source cache projectId rawKey draws = a at h ha
  cases ha with
  | unlimited _ hkey _ hask hopen =>
    cases h
    exact ⟨_, hkey, hask, hopen⟩
  | passed _ hkey _ hask hopen =>
    cases h
    exact ⟨_, hkey, hask, hopen⟩
  | frozen | malformed | remembered | failed | unknown | closed | throttled => cases h

/-! ## Requests one after another -/

/-- The request to let an event in. -/
structure Request where
  /-- of which pairs the remembered rejection was lost since the last request -/
  lost : Nat × PublicKey → Bool
  projectId : Nat
  /-- the key as it is written -/
  rawKey : String

/-- Authenticates events one after another, each with what the source answers at that time. The
rejections that are remembered and the draws that are left go from one to the next. -/
def authenticateAll (s : AccessSettings) :
    RejectionCache → Draws → List (Source × Request) → List Authentication
  | _, _, [] => []
  | cache, draws, (source, request) :: rest =>
    let a := s.authenticate source (cache.forget request.lost) request.projectId request.rawKey draws
    a :: authenticateAll s a.cache a.draws rest

end EventIntake.AccessSettings
