import EventIntake.Access.Authenticator
import EventIntake.SearchVector.Parser

/-!
# The store

Four tables: organizations, their projects, the keys of projects, and the issues of projects with their
search vectors as texts. Rates are at most 100, a row's parent exists, and no public key is there
twice. Keys are told apart by their texts. Numbers of rows are signed integers of 64 bits; a larger
number names no row and cannot be asked for in most operations.

An operation that fails leaves the tables as they were.
-/

namespace EventIntake

/-- A row of the organizations. -/
structure Organization where
  id : Nat
  name : String
  /-- whether events are let in -/
  accepting : Bool
  rate : UInt8
  scrubs : Bool
  deriving DecidableEq, Repr

/-- A row of the projects. -/
structure Project where
  id : Nat
  organizationId : Nat
  name : String
  scrubs : Bool
  rate : UInt8
  firstEvent : Option Instant
  /-- whether the project is marked as deleted -/
  deleted : Bool
  deriving DecidableEq, Repr

/-- A row of the keys. -/
structure ProjectKey where
  projectId : Nat
  key : PublicKey
  deriving DecidableEq

/-- A row of the issues. -/
structure Issue where
  id : Nat
  projectId : Nat
  title : String
  /-- the text of the search vector -/
  vector : String
  deriving DecidableEq, Repr

/-- The four tables. -/
structure Store where
  organizations : List Organization
  projects : List Project
  keys : List ProjectKey
  issues : List Issue
  deriving DecidableEq

/-- Why an operation fails. -/
inductive StoreError
  /-- a rate is greater than 100 -/
  | rateOutOfRange
  /-- a row's parent does not exist -/
  | missingParent
  /-- the public key is there already -/
  | duplicateKey
  /-- a number is too large for a row -/
  | idTooLarge
  /-- the stored text of an issue is no search vector -/
  | invalidVector (issueId : Nat) (error : VectorError)
  deriving DecidableEq, Repr

/-- What is said about a failure. -/
def StoreError.message : StoreError → String
  | rateOutOfRange =>
    "database error: CHECK constraint failed: event_throttle_rate BETWEEN 0 AND 100"
  | missingParent => "database error: FOREIGN KEY constraint failed"
  | duplicateKey => "database error: UNIQUE constraint failed: project_keys.public_key"
  | idTooLarge => "database error: number too large to fit in target type"
  | invalidVector issueId error =>
    "stored search vector of issue " ++ toString issueId ++ " is invalid: " ++ error.message

namespace Store

/-- The store without rows. -/
def empty : Store := ⟨[], [], [], []⟩

/-- What rows have in common in every store that was reached from the empty one. -/
structure Sound (s : Store) : Prop where
  /-- rates are at most 100 -/
  organization_rate : ∀ o ∈ s.organizations, o.rate ≤ 100
  project_rate : ∀ p ∈ s.projects, p.rate ≤ 100
  /-- every parent exists -/
  project_parent : ∀ p ∈ s.projects, ∃ o ∈ s.organizations, o.id = p.organizationId
  key_parent : ∀ k ∈ s.keys, ∃ p ∈ s.projects, p.id = k.projectId
  issue_parent : ∀ i ∈ s.issues, ∃ p ∈ s.projects, p.id = i.projectId
  /-- no public key is there twice -/
  keys_distinct : (s.keys.map ProjectKey.key).Nodup

/-- The greatest number of a row. -/
def maxId : Nat := Nat.pow 2 63 - 1

/-- The number of the next row after rows with these numbers. -/
def nextId (ids : List Nat) : Nat :=
  ids.foldl max 0 + 1

/-! ## Reading -/

/-- The organization with a number. -/
def organization? (s : Store) (id : Nat) : Option Organization :=
  s.organizations.find? (·.id = id)

/-- The project with a number. -/
def project? (s : Store) (id : Nat) : Option Project :=
  s.projects.find? (·.id = id)

/-- The issue with a number. -/
def issue? (s : Store) (id : Nat) : Option Issue :=
  s.issues.find? (·.id = id)

/-- The context of a project with a key: there is one if the key is the project's, and the project is
not deleted. -/
def context? (s : Store) (projectId : Nat) (key : PublicKey) : Option Context := do
  guard (projectId ≤ maxId)
  let _ ← s.keys.find? fun k => k.key.text = key.text ∧ k.projectId = projectId
  let p ← s.project? projectId
  guard (!p.deleted)
  let o ← s.organization? p.organizationId
  return {
    projectId := p.id
    organizationId := o.id
    acceptsEvents := o.accepting
    projectScrubs := p.scrubs
    organizationScrubs := o.scrubs
    projectRate := p.rate
    organizationRate := o.rate
    firstEventAt := p.firstEvent }

/-- The store as what answers for contexts. It always gives an answer. -/
def source (s : Store) : Source :=
  fun projectId key => .ok (s.context? projectId key)

/-- The text of the search vector of an issue, if there is such an issue. -/
def vectorText? (s : Store) (issueId : Nat) : Except StoreError (Option String) :=
  if maxId < issueId then .error .idTooLarge else .ok ((s.issue? issueId).map Issue.vector)

/-- The search vector of an issue, if there is such an issue. -/
def vector? (s : Store) (issueId : Nat) : Except StoreError (Option SearchVector) := do
  match ← s.vectorText? issueId with
  | none => return none
  | some text =>
    match SearchVector.parse text with
    | .ok v => return some v
    | .error e => throw (.invalidVector issueId e)

/-! ## Writing rows -/

/-- Adds an organization, and gives its number. -/
def insertOrganization (s : Store) (name : String) (accepting : Bool) (rate : UInt8) (scrubs : Bool) :
    Except StoreError (Nat × Store) :=
  if Context.maxRate < rate then .error .rateOutOfRange
  else
    let id := nextId (s.organizations.map Organization.id)
    .ok (id, { s with organizations := s.organizations ++ [⟨id, name, accepting, rate, scrubs⟩] })

/-- Adds a project to an organization, and gives its number. -/
def insertProject (s : Store) (organizationId : Nat) (name : String) (scrubs : Bool) (rate : UInt8)
    (firstEvent : Option Instant) : Except StoreError (Nat × Store) :=
  if maxId < organizationId then .error .idTooLarge
  else if Context.maxRate < rate then .error .rateOutOfRange
  else if (s.organization? organizationId).isNone then .error .missingParent
  else
    let id := nextId (s.projects.map Project.id)
    .ok (id, { s with projects :=
      s.projects ++ [⟨id, organizationId, name, scrubs, rate, firstEvent, false⟩] })

/-- Adds a key to a project. -/
def insertKey (s : Store) (projectId : Nat) (key : PublicKey) : Except StoreError Store :=
  if maxId < projectId then .error .idTooLarge
  else if (s.keys.map (·.key.text)).contains key.text then .error .duplicateKey
  else if (s.project? projectId).isNone then .error .missingParent
  else .ok { s with keys := s.keys ++ [⟨projectId, key⟩] }

/-- Adds an issue with an empty search vector to a project, and gives its number. -/
def createIssue (s : Store) (projectId : Nat) (title : String) : Except StoreError (Nat × Store) :=
  if maxId < projectId then .error .idTooLarge
  else if (s.project? projectId).isNone then .error .missingParent
  else
    let id := nextId (s.issues.map Issue.id)
    .ok (id, { s with issues := s.issues ++ [⟨id, projectId, title, ""⟩] })

/-- Sets whether an organization lets events in. -/
def setAccepting (s : Store) (organizationId : Nat) (accepting : Bool) : Except StoreError Store :=
  if maxId < organizationId then .error .idTooLarge
  else .ok { s with organizations := s.organizations.map fun o =>
    if o.id = organizationId then { o with accepting := accepting } else o }

/-- Marks a project as deleted. -/
def softDelete (s : Store) (projectId : Nat) : Except StoreError Store :=
  if maxId < projectId then .error .idTooLarge
  else .ok { s with projects := s.projects.map fun p =>
    if p.id = projectId then { p with deleted := true } else p }

/-- Overwrites the text of the search vector of an issue. -/
def writeVector (s : Store) (issueId : Nat) (text : String) : Store :=
  { s with issues := s.issues.map fun i => if i.id = issueId then { i with vector := text } else i }

/-! ## Deleting rows -/

/-- Deletes some issues. -/
def deleteIssues (s : Store) (p : Issue → Bool) : Store :=
  { s with issues := s.issues.filter (!p ·) }

/-- Deletes some projects with their keys and issues. -/
def deleteProjects (s : Store) (p : Project → Bool) : Store :=
  let gone := (s.projects.filter p).map Project.id
  let s := s.deleteIssues fun i => gone.contains i.projectId
  { s with
    projects := s.projects.filter (!p ·)
    keys := s.keys.filter fun k => !gone.contains k.projectId }

/-- Deletes some organizations with their projects. -/
def deleteOrganizations (s : Store) (p : Organization → Bool) : Store :=
  let gone := (s.organizations.filter p).map Organization.id
  let s := s.deleteProjects fun q => gone.contains q.organizationId
  { s with organizations := s.organizations.filter (!p ·) }

end Store

end EventIntake
