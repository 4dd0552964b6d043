import EventIntake.Instant
import EventIntake.Json.Value

/-!
# Authorization contexts

What has to be known about a project and its organization to let an event in, and its form as a JSON
object. It is also read from an array of the fields in order.
-/

namespace EventIntake

/-- What has to be known about a project and its organization to let an event in. -/
structure Context where
  projectId : Nat
  organizationId : Nat
  /-- whether the organization lets events in -/
  acceptsEvents : Bool
  /-- whether the project wants addresses scrubbed -/
  projectScrubs : Bool
  /-- whether the organization wants addresses scrubbed -/
  organizationScrubs : Bool
  /-- of a hundred events, how many the project turns away -/
  projectRate : UInt8
  /-- of a hundred events, how many the organization turns away -/
  organizationRate : UInt8
  firstEventAt : Option Instant
  deriving DecidableEq, Repr, Inhabited

namespace Context

/-- The greatest rate that has an effect. -/
def maxRate : UInt8 := 100

/-- Whether addresses are scrubbed. -/
def scrubs (c : Context) : Bool :=
  c.organizationScrubs || c.projectScrubs

/-- Of a hundred events, how many are turned away. -/
def rate (c : Context) : UInt8 :=
  min maxRate (max c.organizationRate c.projectRate)

/-! ## The JSON form -/

/-- The names of the fields in order. -/
def fieldNames : List String :=
  ["project_id", "organization_id", "project_accepts_events", "project_scrub_ip_addresses",
    "organization_scrub_ip_addresses", "project_event_throttle_rate",
    "organization_event_throttle_rate", "first_event_at"]

/-- A rate of 8 bits. -/
def rateOf? : Json.Value → Option UInt8
  | .integer n => if 0 ≤ n ∧ n ≤ 255 then some n.toNat.toUInt8 else none
  | _ => none

/-- An instant, or none. -/
def instantOf? : Json.Value → Option (Option Instant)
  | .null => some none
  | .string s => (Instant.parse s.toList).map some
  | _ => none

/-- The context with these fields in order. -/
def ofFields? : List Json.Value → Option Context
  | [projectId, organizationId, accepts, projectScrubs, organizationScrubs, projectRate,
      organizationRate, firstEventAt] => do
    return {
      projectId := ← projectId.nat?
      organizationId := ← organizationId.nat?
      acceptsEvents := ← accepts.bool?
      projectScrubs := ← projectScrubs.bool?
      organizationScrubs := ← organizationScrubs.bool?
      projectRate := ← rateOf? projectRate
      organizationRate := ← rateOf? organizationRate
      firstEventAt := ← instantOf? firstEventAt }
  | _ => none

/-- The context that a JSON value describes. Only the time of the first event may be missing. -/
def ofJson? (v : Json.Value) : Option Context :=
  match v with
  | .array fields => ofFields? fields
  | .object _ => (fieldNames.mapM fun name =>
      if name = "first_event_at" then some ((v.get? name).getD .null) else v.get? name).bind ofFields?
  | _ => none

/-- A context as a JSON object. -/
def toJson (c : Context) : Json.Value :=
  .object (fieldNames.zip [
    .ofNat c.projectId, .ofNat c.organizationId, .bool c.acceptsEvents, .bool c.projectScrubs,
    .bool c.organizationScrubs, .ofNat c.projectRate.toNat, .ofNat c.organizationRate.toNat,
    .ofOption (fun t => .string t.text) c.firstEventAt])

end Context

end EventIntake
