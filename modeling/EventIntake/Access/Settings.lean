import EventIntake.Json.Value

/-!
# Access settings

How events are authenticated: whether all are turned away, how long a throttled client has to wait,
and how many rejections are remembered for how long. The settings are valid if rejections can be
remembered at all.
-/

namespace EventIntake

/-- How rejections are remembered. -/
structure CacheSettings where
  /-- how many rejections are remembered -/
  capacity : Nat
  /-- for how many seconds a rejection is remembered -/
  lifetime : Nat
  deriving DecidableEq, Repr, Inhabited

/-- The usual settings. -/
def CacheSettings.standard : CacheSettings := ⟨10000, 30⟩

/-- How events are authenticated. -/
structure AccessSettings where
  /-- whether all events are turned away -/
  frozen : Bool
  /-- for how many seconds a throttled client has to wait -/
  retryAfter : Nat
  cache : CacheSettings
  deriving DecidableEq, Repr, Inhabited

namespace AccessSettings

/-- The usual settings. -/
def standard : AccessSettings := ⟨false, 600, .standard⟩

/-- Why settings are not valid. -/
inductive Fault
  | noCapacity
  | noLifetime
  deriving DecidableEq, Repr

/-- What is said about a fault. -/
def Fault.message : Fault → String
  | noCapacity => "negative_cache.capacity must be greater than 0"
  | noLifetime => "negative_cache.ttl_secs must be greater than 0"

/-- The first fault of the settings. -/
def fault? (s : AccessSettings) : Option Fault :=
  if s.cache.capacity = 0 then some .noCapacity
  else if s.cache.lifetime = 0 then some .noLifetime
  else none

/-- The longest lifetime of a rejection, a thousand years. -/
def longestLifetime : Nat := 31536000000

/-- Whether an authenticator can be built with the settings. -/
def usable (s : AccessSettings) : Bool :=
  s.cache.lifetime ≤ longestLifetime

/-- Whether rejections are remembered at all. -/
def remembers (s : AccessSettings) : Bool :=
  s.cache.capacity ≠ 0 && s.cache.lifetime ≠ 0

/-! ## The JSON form -/

/-- The field of a structure that is written as an object or as an array of its fields in order. -/
def field? (v : Json.Value) (index : Nat) (name : String) : Option Json.Value :=
  match v with
  | .array items => items[index]?
  | v => v.get? name

/-- The value of a field that may be missing. -/
def fieldOr {α : Type} (v : Json.Value) (index : Nat) (name : String) (default : α)
    (read : Json.Value → Option α) : Option α :=
  match field? v index name with
  | some w => read w
  | none => some default

/-- Whether the value is an object, or an array of at most so many fields. -/
def isRecord (fields : Nat) : Json.Value → Bool
  | .array items => items.length ≤ fields
  | .object _ => true
  | _ => false

/-- The cache settings that a JSON value describes. -/
def cacheOfJson? (v : Json.Value) : Option CacheSettings := do
  guard (isRecord 2 v)
  let d := CacheSettings.standard
  return ⟨← fieldOr v 0 "capacity" d.capacity Json.Value.nat?,
    ← fieldOr v 1 "ttl_secs" d.lifetime Json.Value.nat?⟩

/-- The settings that a JSON value describes. -/
def ofJson? (v : Json.Value) : Option AccessSettings := do
  guard (isRecord 3 v)
  let d := standard
  return ⟨← fieldOr v 0 "maintenance_freeze" d.frozen Json.Value.bool?,
    ← fieldOr v 1 "throttle_retry_after_secs" d.retryAfter Json.Value.nat?,
    ← fieldOr v 2 "negative_cache" d.cache cacheOfJson?⟩

end AccessSettings

end EventIntake
