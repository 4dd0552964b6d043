import EventIntake.Store.Basic

/-!
# Seeding

An organization with one project, one key and one issue, to begin with. The four rows are written one
after another: if one cannot be written, those before it stay.
-/

namespace EventIntake

/-- What a new project is made from. -/
structure SeedOptions where
  organization : String
  project : String
  organizationRate : UInt8
  projectRate : UInt8
  /-- whether the organization lets events in -/
  accepting : Bool
  issueTitle : String
  deriving DecidableEq, Repr

/-- What is made if nothing is said. -/
def SeedOptions.standard : SeedOptions := ⟨"Acme", "backend", 0, 0, true, "Untitled issue"⟩

/-- The rows that were made. -/
structure Seeded where
  organizationId : Nat
  projectId : Nat
  key : PublicKey
  issueId : Nat
  deriving DecidableEq

/-- Makes an organization with a project that has a key and an issue, and gives the store after it.
The project scrubs addresses, the organization does not. -/
def Store.seed (s : Store) (options : SeedOptions) (key : PublicKey) :
    Except StoreError Seeded × Store :=
  match s.insertOrganization options.organization options.accepting options.organizationRate false with
  | .error e => (.error e, s)
  | .ok (organizationId, s) =>
    match s.insertProject organizationId options.project true options.projectRate none with
    | .error e => (.error e, s)
    | .ok (projectId, s) =>
      match s.insertKey projectId key with
      | .error e => (.error e, s)
      | .ok s =>
        match s.createIssue projectId options.issueTitle with
        | .error e => (.error e, s)
        | .ok (issueId, s) => (.ok ⟨organizationId, projectId, key, issueId⟩, s)

end EventIntake
