import EventIntake.CommandLine.Options
import EventIntake.Event.Reader
import EventIntake.Settings.Reader
import EventIntake.Simulation
import EventIntake.Store.Seed

/-!
# Reports and failures

What a command reports, as the value that is printed, and why it fails, with what is said about it and
the exit code that it leaves.
-/

namespace EventIntake

/-- Why a command fails. -/
inductive CommandError
  /-- the file with the settings cannot be read -/
  | settingsMissing (path : String)
  | settings (error : Settings.ReadError)
  /-- some settings are too large to work with -/
  | unusableSettings
  | store (error : StoreError)
  | source (error : SourceError)
  /-- the file with the event cannot be read -/
  | eventMissing (path : String)
  | event (failure : Json.Failure)
  | unknownIssue (id : Nat)
  deriving DecidableEq, Repr

namespace CommandError

/-- What is said about a failure. -/
def message : CommandError → String
  | settingsMissing path => "could not load config from file: " ++ path ++ " cannot be read"
  | settings e => e.message
  | unusableSettings => "the settings are too large to work with"
  | store e => e.message
  | source e => e.message
  | eventMissing path => "i/o error: " ++ path ++ " cannot be read"
  | event f => "invalid JSON: " ++ f.category
  | unknownIssue id => "issue " ++ toString id ++ " does not exist"

/-- The exit code of a program that fails so. -/
def exitCode : CommandError → UInt8
  | unusableSettings => 101
  | _ => 1

end CommandError

/-- The exit code of a program whose arguments are refused. To show the help that was asked for is no
failure. -/
def CommandLine.UsageError.exitCode : CommandLine.UsageError → UInt8
  | .helpWanted => 0
  | _ => 2

/-! ## Reports -/

/-- What a command reports. -/
inductive Report
  /-- nothing but success -/
  | done
  | seeded (rows : Seeded)
  | decided (decision : Decision)
  | appended (issueId : Nat) (result : IssueAppend)
  | simulated (report : Simulation.Report)

/-- An outcome as it is reported. -/
def AppendOutcome.text : AppendOutcome → String
  | unchanged => "Unchanged"
  | appended => "Appended"
  | truncated evicted => "Truncated \x7b evicted: " ++ toString evicted ++ " \x7d"
  | saturated => "Saturated"
  | oversized => "Oversized"

namespace Report

open Json (Value)

/-- The rows that were made as a value. -/
def ofSeeded (r : Seeded) : Value :=
  .object [("organization_id", .ofNat r.organizationId), ("project_id", .ofNat r.projectId),
    ("public_key", .string r.key.text), ("issue_id", .ofNat r.issueId)]

/-- A decision as a value. -/
def ofDecision : Decision → Value
  | .accepted c => .object [("decision", .string "accepted"), ("context", c.toJson),
      ("scrub_ip_addresses", .bool c.scrubs)]
  | .rejected r => .object [("decision", .string "rejected"), ("status", .ofNat r.status),
      ("message", .string r.message), ("retry_after", .ofOption .ofNat r.retryAfter?)]

/-- What became of an append as a value. -/
def ofAppend (issueId : Nat) (result : IssueAppend) : Value :=
  let (outcome, lexemes, bytes) := match result with
    | .applied r => (r.outcome.text, r.vector.size, r.vector.byteSize)
    | .unreadable => ("unreadable_vector", 0, 0)
  .object [("issue_id", .ofNat issueId), ("outcome", .string outcome), ("lexemes", .ofNat lexemes),
    ("bytes", .ofNat bytes)]

/-- The report of a simulation as a value. -/
def ofSimulation (r : Simulation.Report) : Value :=
  let c := r.outcomes
  .object [("issue_id", .ofNat r.issueId), ("workers", .ofNat r.workers),
    ("events", .ofNat c.total),
    ("outcomes", .object [("appended", .ofNat c.appended), ("truncated", .ofNat c.truncated),
      ("unchanged", .ofNat c.unchanged), ("saturated", .ofNat c.saturated),
      ("oversized", .ofNat c.oversized), ("unreadable", .ofNat c.unreadable)]),
    ("lexemes", .ofNat r.vector.size), ("bytes", .ofNat r.vector.byteSize)]

/-- The value that is printed, if anything is. -/
def toJson? : Report → Option Value
  | done => none
  | seeded r => some (ofSeeded r)
  | decided d => some (ofDecision d)
  | appended issueId r => some (ofAppend issueId r)
  | simulated r => some (ofSimulation r)

end Report

end EventIntake
