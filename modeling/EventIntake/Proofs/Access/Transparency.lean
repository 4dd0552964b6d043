import EventIntake.Proofs.Access.Authentication
import EventIntake.Proofs.Access.Remembering

/-!
# Remembering changes no decision

The memory of rejections only spares the source. If the source answers every pair in the same way each
time, the same events come in, the same are turned away, and the same draws are taken as without the
memory, whatever is lost of it in between (`cache_transparent`).

What is remembered is `Faithful` if it is what would be decided about the pair, and no draw would be
taken for it. That stays so through every authentication and every loss.
-/

namespace EventIntake

/-! ## Without the memory -/

/-- What is seen of an authentication from outside. -/
structure Authentication.Outcome where
  /-- the decision, unless the source gave no answer -/
  result : Except SourceError Decision
  /-- the draws that are left -/
  draws : Draws
  /-- how many draws were taken -/
  drawsUsed : Nat

/-- What is seen of an authentication from outside. -/
def Authentication.outcome (a : Authentication) : Authentication.Outcome :=
  ⟨a.result, a.draws, a.drawsUsed⟩

/-- The source that always gives the same answers. -/
def Source.ofAnswers (answers : Nat → PublicKey → Option Context) : Source :=
  fun projectId key => .ok (answers projectId key)

namespace AccessSettings

open Authentication

variable {s : AccessSettings} {source : Source} {answers : Nat → PublicKey → Option Context}
  {cache : RejectionCache}

/-- Authenticates an event with the source alone. -/
def authenticateAfresh (s : AccessSettings) (source : Source) (projectId : Nat) (rawKey : String)
    (draws : Draws) : Outcome :=
  if s.frozen then ⟨.ok (.rejected .maintenance), draws, 0⟩
  else
    match PublicKey.parse rawKey with
    | none => ⟨.ok (.rejected .unauthorized), draws, 0⟩
    | some key =>
      match source projectId key with
      | .error e => ⟨.error e, draws, 0⟩
      | .ok context =>
        let (decision, _, rest, taken) := s.decide context draws
        ⟨.ok decision, rest, taken⟩

/-- Authenticates events one after another, each with the source alone. -/
def authenticateAllAfresh (s : AccessSettings) (source : Source) :
    Draws → List Request → List Outcome
  | _, [] => []
  | draws, request :: rest =>
    let o := s.authenticateAfresh source request.projectId request.rawKey draws
    o :: authenticateAllAfresh s source o.draws rest

/-- An event is authenticated with the source alone if nothing is remembered about its pair, and the
same samples are drawn. -/
theorem outcome_of_get?_eq_none {projectId : Nat} {rawKey : String}
    (hget : (PublicKey.parse rawKey).bind (cache.get? s.retryAfter projectId) = none) (draws : Draws) :
    (s.authenticate source cache projectId rawKey draws).outcome =
      s.authenticateAfresh source projectId rawKey draws := by
  rw [authenticate, authenticateAfresh]
  split
  · rfl
  · rcases hkey : PublicKey.parse rawKey with _ | key
    · rfl
    · rw [hkey] at hget
      simp only [show cache.get? s.retryAfter projectId key = none from hget, ask]
      rcases source projectId key with e | context <;> rfl

/-! ## What is remembered -/

/-- Every remembered rejection is what would be decided about its pair, without a draw. -/
def Faithful (s : AccessSettings) (answers : Nat → PublicKey → Option Context)
    (cache : RejectionCache) : Prop :=
  ∀ projectId key r, cache.get? s.retryAfter projectId key = some r →
    ∀ draws, s.decide (answers projectId key) draws = (.rejected r, true, draws, 0)

theorem faithful_nil (s : AccessSettings) (answers : Nat → PublicKey → Option Context) :
    Faithful s answers [] := by
  intro projectId key r hget
  cases hget

theorem Faithful.forget (h : Faithful s answers cache) (lost : Nat × PublicKey → Bool) :
    Faithful s answers (cache.forget lost) := by
  intro projectId key r hget
  rw [RejectionCache.get?_forget] at hget
  split at hget
  · cases hget
  · exact h projectId key r hget

/-- To remember a rejection is right if the source would be answered with it again, whatever samples
are drawn. -/
theorem Faithful.rememberIn {projectId : Nat} {key : PublicKey} {r : Rejection} {code : String}
    (h : Faithful s answers cache) (hcode : RejectionCache.encode r = some code)
    (hretry : ∀ seconds, r.retryAfter? = some seconds → seconds = s.retryAfter)
    (hdecide : ∀ draws, s.decide (answers projectId key) draws = (.rejected r, true, draws, 0)) :
    Faithful s answers (s.rememberIn cache projectId key r) := by
  rw [AccessSettings.rememberIn]
  split
  · intro projectId' key' r' hget
    rw [RejectionCache.get?_remember hcode hretry cache projectId key (projectId', key')] at hget
    split at hget
    next hpair =>
      cases hpair
      cases hget
      exact hdecide
    next => exact h projectId' key' r' hget
  · exact h

/-! ## One request -/

/-- An authentication remembers what would be decided about the pair again. Of the ways in which it
can go, only those with an answer of the source remember anything. -/
theorem Faithful.authenticate (h : Faithful s answers cache) (projectId : Nat) (rawKey : String)
    (draws : Draws) :
    Faithful s answers
      (s.authenticate (.ofAnswers answers) cache projectId rawKey draws).cache := by
  have ha := authenticating s (.ofAnswers answers) cache projectId rawKey draws
  generalize s.authenticate (.ofAnswers answers) cache projectId rawKey draws = a at ha ⊢
  cases ha with
  | unknown _ _ _ hask =>
    refine h.rememberIn rfl (fun _ hseconds => by cases hseconds) fun draws => ?_
    rw [Except.ok.inj hask]
    rfl
  | closed _ _ _ hask hclosed =>
    refine h.rememberIn rfl (fun _ hseconds => (Option.some.inj hseconds).symm) fun draws => ?_
    rw [Except.ok.inj hask]
    exact decide_closed hclosed draws
  | frozen | malformed | remembered | failed | unlimited | throttled | passed => exact h

/-- With a faithful memory, an event is authenticated as with the source alone: where something is
remembered, the source would have come to the same. -/
theorem Faithful.outcome_authenticate (h : Faithful s answers cache) (projectId : Nat)
    (rawKey : String) (draws : Draws) :
    (s.authenticate (.ofAnswers answers) cache projectId rawKey draws).outcome =
      s.authenticateAfresh (.ofAnswers answers) projectId rawKey draws := by
  rcases hget : (PublicKey.parse rawKey).bind (cache.get? s.retryAfter projectId) with _ | r
  · exact outcome_of_get?_eq_none hget draws
  · obtain ⟨key, hkey, hr⟩ := Option.bind_eq_some_iff.mp hget
    -- the rejection that is remembered is the one that the source's answer leads to
    rw [AccessSettings.authenticate, authenticateAfresh]
    split
    · rfl
    · simp only [hkey, hr, Source.ofAnswers, h projectId key r hr draws]
      rfl

/-! ## All requests -/

/-- With a faithful memory, requests one after another have the outcomes that they would have had
without. The memory after each request is faithful again, which carries the induction. -/
theorem Faithful.outcome_authenticateAll (requests : List Request) (h : Faithful s answers cache)
    (draws : Draws) :
    (s.authenticateAll cache draws (requests.map (Source.ofAnswers answers, ·))).map outcome =
      s.authenticateAllAfresh (.ofAnswers answers) draws requests := by
  induction requests generalizing cache draws with
  | nil => rfl
  | cons request rest ih =>
    have hcache := h.forget request.lost
    have hout := hcache.outcome_authenticate request.projectId request.rawKey draws
    have hnext := hcache.authenticate request.projectId request.rawKey draws
    rw [List.map_cons, authenticateAll, List.map_cons, authenticateAllAfresh, hout, ih hnext, ← hout]
    rfl

/-- The memory of rejections changes no decision and takes no draw, and whatever rates a remembered
throttled event had, it is read back with them and with the seconds that the client has to wait. -/
theorem cache_transparent (s : AccessSettings) :
    (∀ (answers : Nat → PublicKey → Option Context) (draws : Draws) (requests : List Request),
      (s.authenticateAll [] draws (requests.map (Source.ofAnswers answers, ·))).map outcome =
        s.authenticateAllAfresh (.ofAnswers answers) draws requests) ∧
    ∀ (cache : RejectionCache) (projectId : Nat) (key : PublicKey)
      (organizationRate projectRate : UInt8),
      (cache.remember projectId key
          (.throttled s.retryAfter ⟨organizationRate, projectRate⟩)).get? s.retryAfter projectId key =
        some (.throttled s.retryAfter ⟨organizationRate, projectRate⟩) := by
  constructor
  · intro answers draws requests
    exact (faithful_nil s answers).outcome_authenticateAll requests draws
  · intro cache projectId key organizationRate projectRate
    let r : Rejection := .throttled s.retryAfter ⟨organizationRate, projectRate⟩
    have hretry : ∀ seconds, r.retryAfter? = some seconds → seconds = s.retryAfter :=
      fun _ hseconds => (Option.some.inj hseconds).symm
    exact (RejectionCache.get?_remember (r := r) rfl hretry cache projectId key
      (projectId, key)).trans (if_pos rfl)

end AccessSettings

end EventIntake
