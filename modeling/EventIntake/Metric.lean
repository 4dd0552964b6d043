/-!
# Metrics

What the program measures about itself. A metric has a name, a kind and a description; a measurement
is one occurrence of what a metric counts or one value of what it observes. The operations of the
library return their measurements with their results.
-/

namespace EventIntake

/-- What is done with the values of a metric. -/
inductive MetricKind
  | counter
  | gauge
  | histogram
  deriving DecidableEq, Repr, Inhabited

/-- The name of a kind. -/
def MetricKind.name : MetricKind → String
  | counter => "Counter"
  | gauge => "Gauge"
  | histogram => "Histogram"

/-- A metric. -/
structure Metric where
  name : String
  kind : MetricKind
  description : String
  deriving DecidableEq, Repr, Inhabited

/-- The first name that an earlier metric already has, after some names. -/
def Metric.duplicateAfter (seen : List String) : List Metric → Option String
  | [] => none
  | m :: ms => if seen.contains m.name then some m.name else duplicateAfter (m.name :: seen) ms

/-- The first name that an earlier metric already has. -/
def Metric.duplicate? (ms : List Metric) : Option String :=
  Metric.duplicateAfter [] ms

/-! ## Measurements -/

/-- Why an event is rejected. -/
inductive RejectionReason
  | unauthorized
  | throttled
  | maintenance
  deriving DecidableEq, Repr, Inhabited

/-- The label of a reason. -/
def RejectionReason.label : RejectionReason → String
  | unauthorized => "unauthorized"
  | throttled => "throttled"
  | maintenance => "maintenance"

/-- One occurrence or value. -/
inductive Measurement
  /-- a rejection was remembered -/
  | cacheHit
  /-- no rejection was remembered -/
  | cacheMiss
  /-- an event was accepted -/
  | accepted
  /-- an event was rejected -/
  | rejected (reason : RejectionReason)
  /-- the source was asked, which took some time -/
  | resolved
  /-- a text was cut before it was appended -/
  | inputClamped
  /-- a vector was too large to be appended to -/
  | saturated
  /-- lexemes were left out -/
  | truncated
  /-- a vector would have become too large -/
  | oversized
  /-- a vector with this many bytes was made -/
  | vectorBytes (n : Nat)
  /-- an append to an issue was done, which took some time -/
  | issueAppended
  /-- the stored vector of an issue could not be read -/
  | unreadableVector
  /-- a batch was about this many issues -/
  | batchSize (n : Nat)
  deriving DecidableEq, Repr, Inhabited

/-! ## The metrics of the program -/

namespace Metric

def cacheHit : Metric :=
  ⟨"event_auth.negative_cache.hit", .counter,
    "Number of authentications answered from the rejection cache"⟩

def cacheMiss : Metric :=
  ⟨"event_auth.negative_cache.miss", .counter,
    "Number of authentications that missed the rejection cache"⟩

def accepted : Metric :=
  ⟨"event_auth.accepted", .counter, "Number of events accepted"⟩

def rejected : Metric :=
  ⟨"event_auth.rejected", .counter, "Number of events rejected, tagged by reason"⟩

def resolveDuration : Metric :=
  ⟨"event_auth.resolve.duration", .histogram,
    "Time spent resolving a project key against the auth source in seconds"⟩

def inputClamped : Metric :=
  ⟨"search_index.append.input_clamped", .counter,
    "Appends whose input text was cut to the input byte limit"⟩

def saturated : Metric :=
  ⟨"search_index.append.saturated", .counter,
    "Appends skipped because the existing vector was already over the byte ceiling"⟩

def truncated : Metric :=
  ⟨"search_index.append.truncated", .counter,
    "Appends that evicted lexemes to stay within the lexeme budget"⟩

def oversized : Metric :=
  ⟨"search_index.append.oversized", .counter,
    "Appends dropped because the result would exceed the byte ceiling"⟩

def vectorBytes : Metric :=
  ⟨"search_index.vector.bytes", .histogram, "Size in bytes of the vector produced by an append"⟩

def issueAppendDuration : Metric :=
  ⟨"ingest_store.issue_append.duration", .histogram,
    "Time to read, append to and write back an issue\x27s search vector in seconds"⟩

def unreadableVector : Metric :=
  ⟨"ingest_store.issue_vector.unreadable", .counter,
    "Appends skipped because the stored search vector could not be parsed"⟩

def batchSize : Metric :=
  ⟨"ingest_store.issue_batch.size", .histogram,
    "Number of distinct issues updated by one batch"⟩

/-- All metrics of the program. -/
def all : List Metric :=
  [cacheHit, cacheMiss, accepted, rejected, resolveDuration, inputClamped, saturated, truncated,
    oversized, vectorBytes, issueAppendDuration, unreadableVector, batchSize]

end Metric

/-- The metric that a measurement belongs to. -/
def Measurement.metric : Measurement → Metric
  | cacheHit => .cacheHit
  | cacheMiss => .cacheMiss
  | accepted => .accepted
  | rejected _ => .rejected
  | resolved => .resolveDuration
  | inputClamped => .inputClamped
  | saturated => .saturated
  | truncated => .truncated
  | oversized => .oversized
  | vectorBytes _ => .vectorBytes
  | issueAppended => .issueAppendDuration
  | unreadableVector => .unreadableVector
  | batchSize _ => .batchSize

/-- The value of a measurement that is neither a count nor a time. -/
def Measurement.value? : Measurement → Option Nat
  | vectorBytes n | batchSize n => some n
  | _ => none

/-- The label of a measurement, if it has one. -/
def Measurement.label? : Measurement → Option String
  | rejected reason => some ("reason=" ++ reason.label)
  | _ => none

/-! ## What was measured -/

/-- How often a metric was measured. -/
def Metric.total (m : Metric) (ms : List Measurement) : Nat :=
  ms.countP fun x => x.metric = m

/-- The values of a metric that were observed, in order. -/
def Metric.values (m : Metric) (ms : List Measurement) : List Nat :=
  (ms.filter fun x => x.metric = m).filterMap Measurement.value?

theorem Metric.total_append (m : Metric) (ms ns : List Measurement) :
    m.total (ms ++ ns) = m.total ms + m.total ns :=
  List.countP_append

theorem Metric.values_append (m : Metric) (ms ns : List Measurement) :
    m.values (ms ++ ns) = m.values ms ++ m.values ns := by
  rw [values, List.filter_append, List.filterMap_append]
  rfl

end EventIntake
