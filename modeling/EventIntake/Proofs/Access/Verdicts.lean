import EventIntake.Proofs.Access.Authentication
import EventIntake.Proofs.Access.Remembering

/-!
# Only verdicts are remembered

The source may answer differently each time, or not at all. Two of its answers are a `Verdict` on a
pair, about which a rejection is remembered: that there is no context, and that the organization lets
no events in. In every run, what is remembered about a pair is the source's last answer about this pair,
and that answer was a verdict (`Backed`); it answers the pair's events as that verdict did, without the
source and without a draw (`only_verdicts_remembered`).
-/

namespace EventIntake.AccessSettings

variable {s : AccessSettings} {cache : RejectionCache} {draws : Draws}
  {calls : List (Source × Request)} {pair : Nat × PublicKey} {r : Rejection} {code : String}

/-! ## The events of a run -/

/-- An event of a run, with all that decides what comes of it. -/
structure Exchange where
  /-- what the source answers at that time -/
  source : Source
  request : Request
  /-- the rejections that are remembered at that time -/
  remembered : RejectionCache
  /-- the draws that are left at that time -/
  draws : Draws

/-- What comes of an event. -/
def reply (s : AccessSettings) (e : Exchange) : Authentication :=
  s.authenticate e.source e.remembered e.request.projectId e.request.rawKey e.draws

/-- The events of a run. -/
def exchanges (s : AccessSettings) :
    RejectionCache → Draws → List (Source × Request) → List Exchange
  | _, _, [] => []
  | cache, draws, (source, request) :: rest =>
    let e : Exchange := ⟨source, request, cache.forget request.lost, draws⟩
    e :: exchanges s (s.reply e).cache (s.reply e).draws rest

/-- What comes of the events of a run is what comes of its requests. -/
theorem map_reply_exchanges (s : AccessSettings) (cache : RejectionCache) (draws : Draws)
    (calls : List (Source × Request)) :
    (s.exchanges cache draws calls).map s.reply = s.authenticateAll cache draws calls := by
  induction calls generalizing cache draws with
  | nil => rfl
  | cons call rest ih => exact congrArg (_ :: ·) (ih _ _)

variable {past before after : List Exchange} {e : Exchange}

theorem authenticating_reply (s : AccessSettings) (e : Exchange) :
    Authenticating s e.source e.remembered e.request.projectId e.request.rawKey e.draws (s.reply e) :=
  authenticating _ _ _ _ _ _

/-- The event is for the pair. -/
def Exchange.About (e : Exchange) (pair : Nat × PublicKey) : Prop :=
  e.request.projectId = pair.1 ∧ PublicKey.parse e.request.rawKey = some pair.2

instance (e : Exchange) (pair : Nat × PublicKey) : Decidable (e.About pair) :=
  inferInstanceAs (Decidable (_ ∧ _))

/-- What the source answers about a pair on the occasion of an event, if it is asked about it. -/
def answer? (s : AccessSettings) (pair : Nat × PublicKey) (e : Exchange) :
    Option (Except SourceError (Option Context)) :=
  if e.About pair ∧ (s.reply e).sourceCalls = 1 then some (e.source pair.1 pair.2) else none

/-- What the source answered about a pair when it was last asked about it. -/
def lastAnswer? (s : AccessSettings) (pair : Nat × PublicKey) (past : List Exchange) :
    Option (Except SourceError (Option Context)) :=
  (past.filterMap (s.answer? pair)).getLast?

/-- The last answer for a pair is that of the last event, if that asked for the pair. -/
theorem lastAnswer?_concat (s : AccessSettings) (pair : Nat × PublicKey) (past : List Exchange)
    (e : Exchange) :
    s.lastAnswer? pair (past ++ [e]) = (s.answer? pair e).or (s.lastAnswer? pair past) := by
  rw [lastAnswer?, lastAnswer?, List.filterMap_append, List.getLast?_append]
  rcases h : s.answer? pair e with _ | answer
  · rw [List.filterMap_cons_none h]
    rfl
  · rw [List.filterMap_cons_some h]
    rfl

/-! ## Verdicts -/

/-- An answer of the source about which a rejection is remembered, the rejection and its code. -/
inductive Verdict (s : AccessSettings) :
    Except SourceError (Option Context) → Rejection → String → Prop
  /-- there is no context -/
  | unknown : Verdict s (.ok none) .unauthorized "v"
  /-- the organization lets no events in -/
  | closed {c : Context} (hclosed : c.acceptsEvents = false) :
    Verdict s (.ok (some c)) (s.throttled c) (ThrottleState.text ⟨c.organizationRate, c.projectRate⟩)

theorem Verdict.encode {answer : Except SourceError (Option Context)} (h : s.Verdict answer r code) :
    RejectionCache.encode r = some code := by
  cases h with
  | unknown => rfl
  | closed => rfl

/-- The rejection of a verdict is read back from its code. -/
theorem Verdict.decode {answer : Except SourceError (Option Context)} (h : s.Verdict answer r code) :
    RejectionCache.decode s.retryAfter code = some r := by
  refine RejectionCache.decode_of_encode h.encode fun seconds hseconds => ?_
  cases h with
  | unknown => cases hseconds
  | closed => exact (Option.some.inj hseconds).symm

/-- What is remembered about a pair is the source's last answer about it, and that was a verdict. -/
def Backed (s : AccessSettings) (past : List Exchange) (cache : RejectionCache) : Prop :=
  ∀ pair code, cache.code? pair.1 pair.2 = some code →
    ∃ answer r, s.lastAnswer? pair past = some answer ∧ s.Verdict answer r code

theorem backed_nil (s : AccessSettings) (past : List Exchange) : s.Backed past [] := by
  intro pair code hcode
  cases hcode

theorem Backed.forget (h : s.Backed past cache) (lost : Nat × PublicKey → Bool) :
    s.Backed past (cache.forget lost) := by
  intro pair code hcode
  rw [RejectionCache.code?_forget] at hcode
  split at hcode
  · cases hcode
  · exact h pair code hcode

/-- What is remembered can be read, so a pair about which no rejection is found has no code. -/
theorem Backed.code?_eq_none (h : s.Backed past cache) {projectId : Nat} {key : PublicKey}
    (hget : cache.get? s.retryAfter projectId key = none) : cache.code? projectId key = none := by
  refine Option.eq_none_iff_forall_ne_some.mpr fun code hcode => ?_
  obtain ⟨answer, r, -, hverdict⟩ := h (projectId, key) code hcode
  rw [RejectionCache.get?, hcode, Option.bind_some, hverdict.decode] at hget
  cases hget

/-! ## One event -/

theorem Exchange.About.eq {key : PublicKey} (h : e.About pair)
    (hkey : PublicKey.parse e.request.rawKey = some key) : pair = (e.request.projectId, key) :=
  Prod.ext h.1.symm (Option.some.inj (h.2.symm.trans hkey))

/-- An event for which the source is not asked leaves the last answers as they are. -/
theorem Backed.unasked (h : s.Backed past cache) (hcalls : (s.reply e).sourceCalls = 0) :
    s.Backed (past ++ [e]) cache := by
  intro pair code hcode
  have hnone : s.answer? pair e = none := if_neg fun hasked => by simp [hcalls] at hasked
  rw [lastAnswer?_concat, hnone, Option.none_or]
  exact h pair code hcode

/-- An answer about a pair that is not remembered says nothing about those that are. -/
theorem Backed.unremembered (h : s.Backed past cache) {key : PublicKey}
    (hkey : PublicKey.parse e.request.rawKey = some key)
    (hunknown : cache.code? e.request.projectId key = none) : s.Backed (past ++ [e]) cache := by
  intro pair code hcode
  have hnone : s.answer? pair e = none := by
    refine if_neg fun hasked => ?_
    rw [hasked.1.eq hkey, hunknown] at hcode
    cases hcode
  rw [lastAnswer?_concat, hnone, Option.none_or]
  exact h pair code hcode

/-- A verdict may be remembered about the pair that the source was asked about. It is the last
answer for that pair then, and the other pairs are backed as before. -/
theorem Backed.rememberIn (h : s.Backed past cache) {key : PublicKey}
    (hkey : PublicKey.parse e.request.rawKey = some key)
    (hunknown : cache.code? e.request.projectId key = none) (hcalls : (s.reply e).sourceCalls = 1)
    (hverdict : s.Verdict (e.source e.request.projectId key) r code) :
    s.Backed (past ++ [e]) (s.rememberIn cache e.request.projectId key r) := by
  have hothers := h.unremembered hkey hunknown
  rw [AccessSettings.rememberIn]
  split
  · intro pair' code' hcode
    rw [RejectionCache.code?_remember hverdict.encode] at hcode
    split at hcode
    next hpair =>
      subst hpair
      cases hcode
      have hanswer : s.answer? (e.request.projectId, key) e =
          some (e.source e.request.projectId key) := if_pos ⟨⟨rfl, hkey⟩, hcalls⟩
      refine ⟨_, r, ?_, hverdict⟩
      rw [lastAnswer?_concat, hanswer, Option.some_or]
    next => exact hothers pair' code' hcode
  · exact hothers

/-- What comes of an event leaves nothing remembered but verdicts, in each of the ways in which the
event may be authenticated. -/
theorem Backed.reply (h : s.Backed past e.remembered) :
    s.Backed (past ++ [e]) (s.reply e).cache := by
  have hcase := authenticating_reply s e
  generalize ha : s.reply e = a at hcase ⊢
  cases hcase with
  | frozen | malformed | remembered => exact h.unasked (by rw [ha])
  | failed _ hkey hget | unlimited _ hkey hget | throttled _ hkey hget | passed _ hkey hget =>
    exact h.unremembered hkey (h.code?_eq_none hget)
  | unknown _ hkey hget hask =>
    exact h.rememberIn hkey (h.code?_eq_none hget) (by rw [ha])
      (by rw [hask]; exact .unknown)
  | closed _ hkey hget hask hclosed =>
    exact h.rememberIn hkey (h.code?_eq_none hget) (by rw [ha])
      (by rw [hask]; exact .closed hclosed)

/-- Nothing is to be remembered of an event: all are turned away, what is written is no key, the source
gives no answer, or the organization lets events in and a draw may decide. -/
inductive NoVerdict (s : AccessSettings) (e : Exchange) : Prop
  | frozen (hfrozen : s.frozen = true)
  | malformed (hkey : PublicKey.parse e.request.rawKey = none)
  | failed {pair : Nat × PublicKey} (hpair : e.About pair) {error : SourceError}
    (hask : e.source pair.1 pair.2 = .error error)
  | sampled {pair : Nat × PublicKey} (hpair : e.About pair) {c : Context}
    (hask : e.source pair.1 pair.2 = .ok (some c)) (hopen : c.acceptsEvents = true)

/-- An event without a verdict has had no answer that could be remembered. -/
theorem NoVerdict.not_verdict (h : s.NoVerdict e) (hfrozen : s.frozen = false) {key : PublicKey}
    (hkey : PublicKey.parse e.request.rawKey = some key) :
    ¬ s.Verdict (e.source e.request.projectId key) r code := by
  intro hverdict
  cases h with
  | frozen hfrozen' => exact Bool.false_ne_true (hfrozen.symm.trans hfrozen')
  | malformed hkey' => cases hkey.symm.trans hkey'
  | failed hpair hask =>
    cases hpair.eq hkey
    rw [hask] at hverdict
    cases hverdict
  | sampled hpair hask hopen =>
    cases hpair.eq hkey
    rw [hask] at hverdict
    cases hverdict with
    | closed hclosed => exact Bool.false_ne_true (hclosed.symm.trans hopen)

/-- Without a verdict, what is remembered stays as it is. -/
theorem NoVerdict.cache_reply (h : s.NoVerdict e) : (s.reply e).cache = e.remembered := by
  have hcase := authenticating_reply s e
  generalize s.reply e = a at hcase ⊢
  cases hcase with
  | frozen | malformed | remembered | failed | unlimited | throttled | passed => rfl
  | unknown hfrozen hkey _ hask =>
    exact absurd (by rw [hask]; exact .unknown) (h.not_verdict hfrozen hkey)
  | closed hfrozen hkey _ hask hclosed =>
    exact absurd (by rw [hask]; exact .closed hclosed) (h.not_verdict hfrozen hkey)

/-! ## One pair and the others -/

/-- What is remembered for a pair is not touched by what is remembered for another. -/
theorem code?_rememberIn_of_ne {projectId : Nat} {key : PublicKey} (hpair : pair ≠ (projectId, key))
    (s : AccessSettings) (cache : RejectionCache) (r : Rejection) :
    (s.rememberIn cache projectId key r).code? pair.1 pair.2 = cache.code? pair.1 pair.2 := by
  rw [rememberIn]
  split
  · rcases hcode : RejectionCache.encode r with _ | code
    · simp only [RejectionCache.remember, hcode]
    · rw [RejectionCache.code?_remember hcode, if_neg hpair]
  · rfl

/-- An event leaves what is remembered about all other pairs. -/
theorem code?_reply (hpair : ¬ e.About pair) :
    (s.reply e).cache.code? pair.1 pair.2 = e.remembered.code? pair.1 pair.2 := by
  have hcase := authenticating_reply s e
  generalize s.reply e = a at hcase ⊢
  cases hcase with
  | frozen | malformed | remembered | failed | unlimited | throttled | passed => rfl
  | unknown _ hkey | closed _ hkey =>
    refine code?_rememberIn_of_ne (fun heq => hpair ?_) s _ _
    rw [heq]
    exact ⟨rfl, hkey⟩

/-- What comes of an event depends on nothing that is remembered but what is about its pair. So the
events of other pairs can be left out of account. -/
theorem reply_congr {other : RejectionCache}
    (h : ∀ pair, e.About pair → other.code? pair.1 pair.2 = e.remembered.code? pair.1 pair.2) :
    { s.reply { e with remembered := other } with cache := (s.reply e).cache } = s.reply e := by
  rw [reply, reply, authenticate, authenticate]
  split
  · rfl
  · rcases hkey : PublicKey.parse e.request.rawKey with _ | key
    · rfl
    · have hcode : other.code? e.request.projectId key = e.remembered.code? e.request.projectId key :=
        h (e.request.projectId, key) ⟨rfl, hkey⟩
      simp only [RejectionCache.get?, hcode, ask]
      rcases (e.remembered.code? e.request.projectId key).bind _ with _ | r
      · rcases e.source e.request.projectId key with error | context <;> rfl
      · rfl

/-- Where a verdict on the pair is remembered, the event is turned away as the verdict says. -/
theorem reply_of_verdict (hfrozen : s.frozen = false) (hpair : e.About pair)
    (hcode : e.remembered.code? pair.1 pair.2 = some code)
    {answer : Except SourceError (Option Context)} (hverdict : s.Verdict answer r code) :
    s.reply e =
      ⟨.ok (.rejected r), e.remembered, e.draws, 0, 0, [.cacheHit, .rejected r.reason]⟩ := by
  have hget : e.remembered.get? s.retryAfter e.request.projectId pair.2 = some r := by
    rw [RejectionCache.get?, hpair.1, hcode, Option.bind_some, hverdict.decode]
  rw [reply, authenticate, if_neg (by rw [hfrozen]; exact Bool.false_ne_true), hpair.2]
  simp only [hget, turnAway, List.singleton_append]

/-! ## Runs -/

/-- Whatever is remembered in a run is backed by what came before. The induction goes on with all
events so far as the past, and entries may be lost before each. -/
theorem Backed.exchanges (h : s.Backed past cache)
    (hrun : s.exchanges cache draws calls = before ++ e :: after) :
    s.Backed (past ++ before) e.remembered := by
  -- the events that went before are the invariant's past
  induction calls generalizing past cache draws before with
  | nil =>
    exact absurd hrun.symm (List.append_ne_nil_of_right_ne_nil before (List.cons_ne_nil e after))
  | cons call rest ih =>
    obtain ⟨source, request⟩ := call
    rw [AccessSettings.exchanges] at hrun
    have hforget := h.forget request.lost
    cases before with
    | nil =>
      obtain ⟨rfl, -⟩ := List.cons.inj hrun
      rw [List.append_nil]
      exact hforget
    | cons first before =>
      obtain ⟨rfl, htail⟩ := List.cons.inj hrun
      rw [List.append_cons]
      exact ih (Backed.reply (e := ⟨source, request, cache.forget request.lost, draws⟩) hforget) htail

/-- The source is only asked while events are let in at all, so an answer tells that they were. -/
theorem frozen_eq_false_of_lastAnswer? {answer : Except SourceError (Option Context)}
    (h : s.lastAnswer? pair past = some answer) : s.frozen = false := by
  obtain ⟨e, -, hanswer⟩ := List.mem_filterMap.mp (List.mem_of_getLast? h)
  rw [answer?] at hanswer
  split at hanswer
  next hasked =>
    refine Bool.eq_false_iff.mpr fun hfrozen => ?_
    have hcalls := hasked.2
    rw [reply, authenticate, if_pos hfrozen] at hcalls
    cases hcalls
  next => cases hanswer

/-- **Only verdicts are remembered.** After every event of a run, what is remembered about a pair is the
source's last answer about this very pair, and that was a verdict. An event that brings no verdict leaves
all that is remembered, and any event leaves what is remembered about other pairs and is not affected by
it. While a verdict on its pair is remembered, an event is turned away as that verdict says: the source
is not asked, no draw is taken, and what is remembered stays. -/
theorem only_verdicts_remembered (s : AccessSettings) (draws : Draws)
    (calls : List (Source × Request)) (past after : List Exchange) (e : Exchange)
    (hrun : s.exchanges [] draws calls = past ++ e :: after) :
    (∀ pair code, (s.reply e).cache.code? pair.1 pair.2 = some code →
      ∃ answer r, s.lastAnswer? pair (past ++ [e]) = some answer ∧ s.Verdict answer r code) ∧
    (s.NoVerdict e → (s.reply e).cache = e.remembered) ∧
    (∀ pair, ¬ e.About pair →
      (s.reply e).cache.code? pair.1 pair.2 = e.remembered.code? pair.1 pair.2) ∧
    (∀ other : RejectionCache,
      (∀ pair, e.About pair → other.code? pair.1 pair.2 = e.remembered.code? pair.1 pair.2) →
      { s.reply { e with remembered := other } with cache := (s.reply e).cache } = s.reply e) ∧
    (∀ pair code, e.About pair → e.remembered.code? pair.1 pair.2 = some code →
      ∃ answer r, s.lastAnswer? pair past = some answer ∧ s.Verdict answer r code ∧
        s.reply e =
          ⟨.ok (.rejected r), e.remembered, e.draws, 0, 0, [.cacheHit, .rejected r.reason]⟩) := by
  have hbacked : s.Backed past e.remembered := (backed_nil s []).exchanges hrun
  refine ⟨hbacked.reply, NoVerdict.cache_reply, fun pair => code?_reply, fun other => reply_congr,
    fun pair code hpair hcode => ?_⟩
  obtain ⟨answer, r, hlast, hverdict⟩ := hbacked pair code hcode
  have hfrozen := frozen_eq_false_of_lastAnswer? hlast
  exact ⟨answer, r, hlast, hverdict, reply_of_verdict hfrozen hpair hcode hverdict⟩

/-- A key. -/
def someKey : PublicKey := .ofRandomBytes []

/-- An event for a project with the key. -/
def requestFor (projectId : Nat) : Request :=
  ⟨fun _ => false, projectId, "00000000000040008000000000000000"⟩

/-- The source knows the key for no project. -/
def knowsNone : Source := fun _ _ => .ok none

/-- The source knows the key for every project, with this context. -/
def knowsAll (acceptsEvents : Bool) : Source :=
  fun projectId _ => .ok (some ⟨projectId, 1, acceptsEvents, true, false, 0, 30, none⟩)

/-- The first project is unknown, the second is closed, and for the third the source gives no answer.
Then it would let all in. -/
def shiftingCalls : List (Source × Request) :=
  [(knowsNone, requestFor 1), (knowsAll false, requestFor 2),
    (fun _ _ => .error .backend, requestFor 3), (knowsAll true, requestFor 1)]

/-- The first three events. -/
def shiftingPast : List Exchange :=
  [⟨knowsNone, requestFor 1, [], [7]⟩,
    ⟨knowsAll false, requestFor 2, [((1, someKey), "v")], [7]⟩,
    ⟨fun _ _ => .error .backend, requestFor 3, [((2, someKey), "t:30:0"), ((1, someKey), "v")], [7]⟩]

/-- The last event. -/
def shiftingLast : Exchange :=
  ⟨knowsAll true, requestFor 1, [((2, someKey), "t:30:0"), ((1, someKey), "v")], [7]⟩

/-- The first project is still unknown, though the source knows it by now: the answer from before is
remembered, and events for other projects in between do not change that. -/
theorem only_verdicts_remembered_shifting :
    standard.exchanges [] [7] shiftingCalls = shiftingPast ++ shiftingLast :: [] ∧
    shiftingLast.About (1, someKey) ∧
    shiftingLast.remembered.code? 1 someKey = some "v" ∧
    ∃ answer r, standard.lastAnswer? (1, someKey) shiftingPast = some answer ∧
      standard.Verdict answer r "v" ∧
      standard.reply shiftingLast =
        ⟨.ok (.rejected r), shiftingLast.remembered, [7], 0, 0, [.cacheHit, .rejected r.reason]⟩ := by
  have hrun : standard.exchanges [] [7] shiftingCalls = shiftingPast ++ shiftingLast :: [] := rfl
  have hpair : shiftingLast.About (1, someKey) := ⟨rfl, rfl⟩
  have hcode : shiftingLast.remembered.code? 1 someKey = some "v" := rfl
  obtain ⟨-, -, -, -, hanswered⟩ := only_verdicts_remembered standard [7] shiftingCalls
    shiftingPast [] shiftingLast hrun
  exact ⟨hrun, hpair, hcode, hanswered (1, someKey) "v" hpair hcode⟩

end EventIntake.AccessSettings
