import EventIntake.Json.Value
import EventIntake.Store.Basic

/-!
# Snapshots

The store as a value, in which it is kept from one run of the program to the next. A table is an array
of rows, and a row an array of its columns. Reading gives back the store that was written.
-/

namespace EventIntake

open Json (Value)

/-! ## Rows -/

/-- The row of an organization. -/
def Organization.toJson (o : Organization) : Value :=
  .array [.ofNat o.id, .string o.name, .bool o.accepting, .ofNat o.rate.toNat, .bool o.scrubs]

/-- Reads the row of an organization. -/
def Organization.ofJson? : Value → Option Organization
  | .array [.integer id, .string name, .bool accepting, .integer rate, .bool scrubs] =>
    some ⟨id.toNat, name, accepting, rate.toNat.toUInt8, scrubs⟩
  | _ => none

/-- An instant as the array of its parts. -/
def Instant.toJson (t : Instant) : Value :=
  .array [.integer t.seconds, .ofNat t.nanos]

/-- Reads an instant, if there is one. -/
def Instant.ofJson? : Value → Option (Option Instant)
  | .null => some none
  | .array [.integer seconds, .integer nanos] => some (some ⟨seconds, nanos.toNat⟩)
  | _ => none

/-- The row of a project. -/
def Project.toJson (p : Project) : Value :=
  .array [.ofNat p.id, .ofNat p.organizationId, .string p.name, .bool p.scrubs, .ofNat p.rate.toNat,
    .ofOption Instant.toJson p.firstEvent, .bool p.deleted]

/-- Reads the row of a project. -/
def Project.ofJson? : Value → Option Project
  | .array [.integer id, .integer organizationId, .string name, .bool scrubs, .integer rate,
      firstEvent, .bool deleted] =>
    (Instant.ofJson? firstEvent).map fun t =>
      ⟨id.toNat, organizationId.toNat, name, scrubs, rate.toNat.toUInt8, t, deleted⟩
  | _ => none

/-- The row of a key. -/
def ProjectKey.toJson (k : ProjectKey) : Value :=
  .array [.ofNat k.projectId, .string k.key.text]

/-- Reads the row of a key. -/
def ProjectKey.ofJson? : Value → Option ProjectKey
  | .array [.integer projectId, .string key] => (PublicKey.parse key).map (⟨projectId.toNat, ·⟩)
  | _ => none

/-- The row of an issue. -/
def Issue.toJson (i : Issue) : Value :=
  .array [.ofNat i.id, .ofNat i.projectId, .string i.title, .string i.vector]

/-- Reads the row of an issue. -/
def Issue.ofJson? : Value → Option Issue
  | .array [.integer id, .integer projectId, .string title, .string vector] =>
    some ⟨id.toNat, projectId.toNat, title, vector⟩
  | _ => none

/-! ## Tables -/

namespace Store

/-- The store as a value. -/
def toJson (s : Store) : Value :=
  .array [.array (s.organizations.map Organization.toJson), .array (s.projects.map Project.toJson),
    .array (s.keys.map ProjectKey.toJson), .array (s.issues.map Issue.toJson)]

/-- Reads a store. -/
def ofJson? : Value → Option Store
  | .array [.array organizations, .array projects, .array keys, .array issues] => do
    return {
      organizations := ← organizations.mapM Organization.ofJson?
      projects := ← projects.mapM Project.ofJson?
      keys := ← keys.mapM ProjectKey.ofJson?
      issues := ← issues.mapM Issue.ofJson? }
  | _ => none

end Store

end EventIntake
