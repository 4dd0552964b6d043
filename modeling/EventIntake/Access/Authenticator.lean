import EventIntake.Access.Context
import EventIntake.Access.PublicKey
import EventIntake.Access.Settings
import EventIntake.Access.ThrottleState
import EventIntake.Metric

/-!
# Authentication

Whether an event may come in for a project with a key. The source is asked for the context of the pair;
without one the event is unauthorized. An organization that lets no events in has all of them throttled.
Otherwise a draw decides, by the rate of the project and the organization.

Only the first two kinds of rejection are remembered, as a short code for the pair, and answer the next
event of the pair without the source. The memory may lose any rejection at any time.
-/

namespace EventIntake

/-! ## Draws -/

/-- Numbers of 32 bits drawn at random. When they are used up, every draw is 0. -/
abbrev Draws := List UInt32

namespace Draws

/-- The percentage that a draw gives, and whether it may be used: the draw is multiplied by 100, and
the upper half of the product counts, if the lower half is small enough for all percentages to be
equally likely. -/
def percentage (draw : UInt32) : Nat × Bool :=
  let product := draw.toNat * 100
  (product / UInt32.size, product % UInt32.size ≤ 4294967199)

/-- The first percentage that may be used, the draws that are left, and how many were taken. -/
def sample : Draws → Nat × Draws × Nat
  | [] => (0, [], 1)
  | draw :: rest =>
    let (p, usable) := percentage draw
    if usable then (p, rest, 1)
    else
      let (p, rest, taken) := sample rest
      (p, rest, taken + 1)

end Draws

/-! ## Decisions -/

/-- Why an event is turned away. -/
inductive Rejection
  | unauthorized
  | throttled (retryAfter : Nat) (state : ThrottleState)
  | maintenance
  deriving DecidableEq, Repr, Inhabited

namespace Rejection

/-- The status code of the answer. -/
def status : Rejection → Nat
  | unauthorized => 401
  | throttled .. => 429
  | maintenance => 503

/-- For how many seconds the client has to wait. -/
def retryAfter? : Rejection → Option Nat
  | throttled seconds _ => some seconds
  | _ => none

/-- The throttle state of a throttled event. -/
def state? : Rejection → Option ThrottleState
  | throttled _ state => some state
  | _ => none

/-- What the client is told. -/
def message : Rejection → String
  | unauthorized => "invalid DSN"
  | throttled .. => "please retry later"
  | maintenance => "events are not currently being accepted due to maintenance"

/-- The kind of a rejection. -/
def reason : Rejection → RejectionReason
  | unauthorized => .unauthorized
  | throttled .. => .throttled
  | maintenance => .maintenance

end Rejection

/-- Whether an event comes in. -/
inductive Decision
  | accepted (context : Context)
  | rejected (rejection : Rejection)
  deriving DecidableEq, Repr

/-- What is measured about a decision. -/
def Decision.measurement : Decision → Measurement
  | accepted _ => .accepted
  | rejected r => .rejected r.reason

/-! ## Sources -/

/-- Why a source gives no answer. -/
inductive SourceError
  | unavailable (message : String)
  | backend
  deriving DecidableEq, Repr, Inhabited

/-- What is said about a source that gives no answer. -/
def SourceError.message : SourceError → String
  | unavailable m => "auth source is unavailable: " ++ m
  | backend => "auth source backend error"

/-- What answers for the context of a project with a key. -/
abbrev Source := Nat → PublicKey → Except SourceError (Option Context)

/-! ## Remembered rejections -/

/-- The codes of the remembered rejections, by project and key. -/
abbrev RejectionCache := List ((Nat × PublicKey) × String)

namespace RejectionCache

/-- The code of an unauthorized pair. -/
def unauthorizedCode : String := "v"

/-- The code of a rejection, if it is of a kind that is remembered. -/
def encode : Rejection → Option String
  | .unauthorized => some unauthorizedCode
  | .throttled _ state => some state.text
  | .maintenance => none

/-- The rejection of a code. -/
def decode (retryAfter : Nat) (code : String) : Option Rejection :=
  if code = unauthorizedCode then some .unauthorized
  else (ThrottleState.parse code).map (.throttled retryAfter)

/-- The code of a pair. -/
def code? (cache : RejectionCache) (projectId : Nat) (key : PublicKey) : Option String :=
  (cache.find? (·.1 = (projectId, key))).map (·.2)

/-- The remembered rejection of a pair. -/
def get? (cache : RejectionCache) (retryAfter projectId : Nat) (key : PublicKey) : Option Rejection :=
  (cache.code? projectId key).bind (decode retryAfter)

/-- Loses what is remembered about some pairs. -/
def forget (cache : RejectionCache) (lost : Nat × PublicKey → Bool) : RejectionCache :=
  cache.filter fun entry => !lost entry.1

/-- Remembers a rejection, if it is of a kind that is remembered. -/
def remember (cache : RejectionCache) (projectId : Nat) (key : PublicKey) (r : Rejection) :
    RejectionCache :=
  match encode r with
  | some code => ((projectId, key), code) :: cache.forget (· = (projectId, key))
  | none => cache

end RejectionCache

/-! ## One event -/

/-- What came of the authentication of one event. -/
structure Authentication where
  /-- the decision, unless the source gave no answer -/
  result : Except SourceError Decision
  /-- the remembered rejections after it -/
  cache : RejectionCache
  /-- the draws that are left -/
  draws : Draws
  /-- how many draws were taken -/
  drawsUsed : Nat
  /-- how many times the source was asked -/
  sourceCalls : Nat
  measurements : List Measurement

namespace AccessSettings

/-- The rejection of an event that is throttled in a context. -/
def throttled (s : AccessSettings) (c : Context) : Rejection :=
  .throttled s.retryAfter ⟨c.organizationRate, c.projectRate⟩

/-- Decides about an event whose context is known: the decision, whether it is remembered, the draws
that are left, and how many were taken. -/
def decide (s : AccessSettings) (context : Option Context) (draws : Draws) :
    Decision × Bool × Draws × Nat :=
  match context with
  | none => (.rejected .unauthorized, true, draws, 0)
  | some c =>
    if !c.acceptsEvents then (.rejected (s.throttled c), true, draws, 0)
    else if c.rate = 0 then (.accepted c, false, draws, 0)
    else
      let (p, rest, taken) := draws.sample
      (if p < c.rate.toNat then .rejected (s.throttled c) else .accepted c, false, rest, taken)

/-- Asks the source about a pair, and remembers the decision if it is to be remembered. -/
def ask (s : AccessSettings) (source : Source) (cache : RejectionCache) (projectId : Nat)
    (key : PublicKey) (draws : Draws) : Authentication :=
  match source projectId key with
  | .error e => ⟨.error e, cache, draws, 0, 1, [.cacheMiss, .resolved]⟩
  | .ok context =>
    let (decision, remembered, rest, taken) := s.decide context draws
    let cache :=
      match decision with
      | .rejected r => if remembered && s.remembers then cache.remember projectId key r else cache
      | .accepted _ => cache
    ⟨.ok decision, cache, rest, taken, 1, [.cacheMiss, .resolved, decision.measurement]⟩

/-- An event that is turned away without the source. -/
def turnAway (r : Rejection) (cache : RejectionCache) (draws : Draws) (before : List Measurement) :
    Authentication :=
  ⟨.ok (.rejected r), cache, draws, 0, 0, before ++ [.rejected r.reason]⟩

/-- Authenticates an event for a project with a key as it is written in the request. -/
def authenticate (s : AccessSettings) (source : Source) (cache : RejectionCache) (projectId : Nat)
    (rawKey : String) (draws : Draws) : Authentication :=
  if s.frozen then turnAway .maintenance cache draws []
  else
    match PublicKey.parse rawKey with
    | none => turnAway .unauthorized cache draws []
    | some key =>
      match cache.get? s.retryAfter projectId key with
      | some r => turnAway r cache draws [.cacheHit]
      | none => s.ask source cache projectId key draws

end AccessSettings

end EventIntake
