import EventIntake.Proofs.Access.Authentication

/-!
# The metrics of authentication add up

Every authentication measures its own part of what its run measures (`Measured`): a decision once, a
look-up among the remembered rejections if it comes to that, and the source each time it is asked. So
after any run the counters can be held against each other and against what happened
(`metrics_balance`).
-/

namespace EventIntake

/-- How many events were rejected, for all reasons together. -/
def rejectedInAll (ms : List Measurement) : Nat :=
  ms.count (.rejected .unauthorized) + ms.count (.rejected .throttled) +
    ms.count (.rejected .maintenance)

theorem rejectedInAll_append (ms ns : List Measurement) :
    rejectedInAll (ms ++ ns) = rejectedInAll ms + rejectedInAll ns := by
  simp only [rejectedInAll, List.count_append]
  omega

namespace AccessSettings

variable {s : AccessSettings} {source : Source} {cache : RejectionCache} {projectId : Nat}
  {rawKey : String} {draws : Draws} {a : Authentication}

/-- What was measured in a run. -/
def measuredIn (run : List Authentication) : List Measurement :=
  run.flatMap Authentication.measurements

/-- How many authentications of a run came to a decision. -/
def decisionsIn (run : List Authentication) : Nat :=
  run.countP fun a => a.result.isOk

/-- How often the source was asked in a run. -/
def sourceCallsIn (run : List Authentication) : Nat :=
  run.foldr (fun a n => a.sourceCalls + n) 0

/-- How many requests have a key that can be read. -/
def readableKeys (calls : List (Source × Request)) : Nat :=
  calls.countP fun call => (PublicKey.parse call.2.rawKey).isSome

/-! ## One authentication -/

/-- What an authentication measures, by what comes of it. -/
structure Measured (s : AccessSettings) (rawKey : String) (a : Authentication) : Prop where
  /-- a decision is measured once -/
  decision : Metric.accepted.total a.measurements + rejectedInAll a.measurements =
    if a.result.isOk then 1 else 0
  /-- a key that can be read is looked up once, unless all events are turned away -/
  lookup : Metric.cacheHit.total a.measurements + Metric.cacheMiss.total a.measurements =
    if !s.frozen && (PublicKey.parse rawKey).isSome then 1 else 0
  /-- what is not remembered is asked for -/
  miss : Metric.cacheMiss.total a.measurements = a.sourceCalls
  /-- the time of every question is measured -/
  resolved : Metric.resolveDuration.total a.measurements = a.sourceCalls

/-- One authentication shows in the metrics as it should, whichever way it goes. -/
theorem Authenticating.measured
    (h : Authenticating s source cache projectId rawKey draws a) : s.Measured rawKey a := by
  cases h with
  | frozen hfrozen => exact ⟨rfl, by rw [hfrozen]; rfl, rfl, rfl⟩
  | @remembered hfrozen key hkey r =>
    -- whatever is remembered, its reason is one of the three
    have hreason (reason : RejectionReason) :
        s.Measured rawKey ⟨.ok (.rejected r), cache, draws, 0, 0, [.cacheHit, .rejected reason]⟩ := by
      cases reason <;> exact ⟨rfl, by rw [hfrozen, hkey]; rfl, rfl, rfl⟩
    exact hreason r.reason
  | malformed hfrozen hkey | failed hfrozen hkey | unknown hfrozen hkey | closed hfrozen hkey
  | unlimited hfrozen hkey | throttled hfrozen hkey | passed hfrozen hkey =>
    exact ⟨rfl, by rw [hfrozen, hkey]; rfl, rfl, rfl⟩

/-! ## A run -/

/-- What is measured over a run, by what comes of it. -/
structure MeasuredInAll (s : AccessSettings) (calls : List (Source × Request))
    (run : List Authentication) : Prop where
  decisions : Metric.accepted.total (measuredIn run) + rejectedInAll (measuredIn run) =
    decisionsIn run
  lookups : Metric.cacheHit.total (measuredIn run) + Metric.cacheMiss.total (measuredIn run) =
    if s.frozen then 0 else readableKeys calls
  misses : Metric.cacheMiss.total (measuredIn run) = sourceCallsIn run
  resolved : Metric.resolveDuration.total (measuredIn run) = sourceCallsIn run

/-- So does a run of them. The induction is on the calls, and the cache between them may be any. -/
theorem measuredInAll (s : AccessSettings) (cache : RejectionCache) (draws : Draws)
    (calls : List (Source × Request)) :
    s.MeasuredInAll calls (s.authenticateAll cache draws calls) := by
  induction calls generalizing cache draws with
  | nil => exact ⟨rfl, (ite_self 0).symm, rfl, rfl⟩
  | cons call rest ih =>
    obtain ⟨source, request⟩ := call
    have hfirst := (authenticating s source (cache.forget request.lost) request.projectId
      request.rawKey draws).measured
    rw [authenticateAll]
    generalize s.authenticate source (cache.forget request.lost) request.projectId request.rawKey
      draws = a at hfirst ⊢
    have hrest := ih a.cache a.draws
    have hms : measuredIn (a :: s.authenticateAll a.cache a.draws rest) =
      a.measurements ++ measuredIn (s.authenticateAll a.cache a.draws rest) := List.flatMap_cons
    have hcalls : sourceCallsIn (a :: s.authenticateAll a.cache a.draws rest) =
      a.sourceCalls + sourceCallsIn (s.authenticateAll a.cache a.draws rest) := rfl
    refine ⟨?_, ?_, ?_, ?_⟩
    · rw [hms, Metric.total_append, rejectedInAll_append, decisionsIn, List.countP_cons,
        ← decisionsIn, ← hrest.decisions, ← hfirst.decision]
      omega
    · have hlookup := hfirst.lookup
      have hlookups := hrest.lookups
      rw [hms, Metric.total_append, Metric.total_append, readableKeys, List.countP_cons,
        ← readableKeys]
      cases hfrozen : s.frozen with
      | false =>
        simp only [hfrozen, Bool.not_false, Bool.true_and, Bool.false_eq_true, if_false] at *
        omega
      | true =>
        simp only [hfrozen, Bool.not_true, Bool.false_and, Bool.false_eq_true, if_false, if_true] at *
        omega
    · rw [hms, hcalls, Metric.total_append, hfirst.miss, hrest.misses]
    · rw [hms, hcalls, Metric.total_append, hfirst.resolved, hrest.resolved]

/-- **The metrics add up.** After any run, whatever was remembered before it, there are as many
accepted and rejected events as decisions. Every key that could be read was found among the remembered
rejections or not, and every one that was not found is a question to the source, the time of which was
measured. While all events are turned away, none of this is measured and the source is not asked. -/
theorem metrics_balance (s : AccessSettings) (cache : RejectionCache) (draws : Draws)
    (calls : List (Source × Request)) :
    let run := s.authenticateAll cache draws calls
    let ms := measuredIn run
    Metric.accepted.total ms + rejectedInAll ms = decisionsIn run ∧
    (s.frozen = false →
      Metric.cacheHit.total ms + Metric.cacheMiss.total ms = readableKeys calls ∧
      Metric.cacheMiss.total ms = Metric.resolveDuration.total ms ∧
      Metric.cacheMiss.total ms = sourceCallsIn run) ∧
    (s.frozen = true →
      Metric.cacheHit.total ms = 0 ∧ Metric.cacheMiss.total ms = 0 ∧
      Metric.resolveDuration.total ms = 0 ∧ sourceCallsIn run = 0) := by
  intro run ms
  obtain ⟨hdecisions, hlookups, hmisses, hresolved⟩ := s.measuredInAll cache draws calls
  refine ⟨hdecisions, fun hfrozen => ?_, fun hfrozen => ?_⟩
  · rw [hfrozen, if_neg Bool.false_ne_true] at hlookups
    exact ⟨hlookups, hmisses.trans hresolved.symm, hmisses⟩
  · rw [hfrozen, if_pos rfl] at hlookups
    obtain ⟨hhit, hmiss⟩ := Nat.add_eq_zero_iff.mp hlookups
    have hcalls : sourceCallsIn run = 0 := hmisses.symm.trans hmiss
    exact ⟨hhit, hmiss, hresolved.trans hcalls, hcalls⟩

/-- Events for one project: one without a key, two with a key that is unknown, one when the source
gives no answer, and one that comes in. -/
def mixedCalls : List (Source × Request) :=
  let request (projectId : Nat) (rawKey : String) : Request := ⟨fun _ => false, projectId, rawKey⟩
  let unknown : Source := fun _ _ => .ok none
  let known : Source := fun projectId _ => .ok (some ⟨projectId, 1, true, true, false, 0, 0, none⟩)
  [(unknown, request 1 "not a key"), (unknown, request 1 "00000000000040008000000000000000"),
    (unknown, request 1 "00000000000040008000000000000000"),
    (fun _ _ => .error .backend, request 2 "00000000000040008000000000000000"),
    (known, request 2 "00000000000040008000000000000000")]

/-- Of the four readable keys one is found, and of the five events four are decided. The source is
asked about the three keys that are not found. -/
theorem metrics_balance_mixed :
    standard.frozen = false ∧ readableKeys mixedCalls = 4 ∧
    (let run := standard.authenticateAll [] [] mixedCalls
     decisionsIn run = 4 ∧ sourceCallsIn run = 3 ∧
      Metric.accepted.total (measuredIn run) + rejectedInAll (measuredIn run) = 4 ∧
      Metric.cacheHit.total (measuredIn run) + Metric.cacheMiss.total (measuredIn run) = 4 ∧
      Metric.resolveDuration.total (measuredIn run) = 3) ∧
    (let closed : AccessSettings := { standard with frozen := true }
     closed.frozen = true ∧ sourceCallsIn (closed.authenticateAll [] [] mixedCalls) = 0) := by
  have hreadable : readableKeys mixedCalls = 4 := rfl
  have hdecisions : decisionsIn (standard.authenticateAll [] [] mixedCalls) = 4 := rfl
  have hcalls : sourceCallsIn (standard.authenticateAll [] [] mixedCalls) = 3 := rfl
  obtain ⟨hdecided, hopen, -⟩ := metrics_balance standard [] [] mixedCalls
  obtain ⟨hlookups, hresolved, hmisses⟩ := hopen rfl
  obtain ⟨-, -, hclosed⟩ := metrics_balance { standard with frozen := true } [] [] mixedCalls
  refine ⟨rfl, hreadable, ⟨hdecisions, hcalls, hdecided.trans hdecisions, hlookups.trans hreadable,
    ?_⟩, rfl, (hclosed rfl).2.2.2⟩
  rw [← hresolved, hmisses, hcalls]

end AccessSettings

end EventIntake
