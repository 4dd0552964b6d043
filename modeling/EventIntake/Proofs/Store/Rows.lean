import EventIntake.Proofs.Access.PublicKey
import EventIntake.Store.Append

/-!
# Writing rows

For each operation that writes a row, what holds when it succeeds: what was checked, and the store
that it leaves (`insertOrganization_eq_ok`, `insertProject_eq_ok`, `insertKey_eq_ok`,
`createIssue_eq_ok`, `setAccepting_eq_ok`, `softDelete_eq_ok`).
-/

namespace EventIntake.Store

variable {s s' : Store} {id : Nat}

/-- An organization that was inserted has a rate that is not too large and the next number. It is
added behind the others, and nothing else changes. -/
theorem insertOrganization_eq_ok {name : String} {accepting scrubs : Bool} {rate : UInt8}
    (h : s.insertOrganization name accepting rate scrubs = .ok (id, s')) :
    rate ≤ Context.maxRate ∧ id = nextId (s.organizations.map Organization.id) ∧
      s' = { s with organizations :=
        s.organizations ++ [⟨id, name, accepting, rate, scrubs⟩] } := by
  rw [insertOrganization] at h
  split at h
  next => cases h
  next hrate =>
    obtain ⟨rfl, rfl⟩ := Prod.mk.inj (Except.ok.inj h)
    exact ⟨UInt8.not_lt.mp hrate, rfl, rfl⟩

/-- A project that was inserted has a rate that is not too large, an organization that exists and
the next number. It is added behind the others, not deleted, and nothing else changes. -/
theorem insertProject_eq_ok {organizationId : Nat} {name : String} {scrubs : Bool} {rate : UInt8}
    {firstEvent : Option Instant}
    (h : s.insertProject organizationId name scrubs rate firstEvent = .ok (id, s')) :
    organizationId ≤ maxId ∧ rate ≤ Context.maxRate ∧
      (s.organization? organizationId).isSome = true ∧
      id = nextId (s.projects.map Project.id) ∧
      s' = { s with projects :=
        s.projects ++ [⟨id, organizationId, name, scrubs, rate, firstEvent, false⟩] } := by
  rw [insertProject] at h
  split at h
  next => cases h
  next hid =>
    split at h
    next => cases h
    next hrate =>
      split at h
      next => cases h
      next hparent =>
        obtain ⟨rfl, rfl⟩ := Prod.mk.inj (Except.ok.inj h)
        have hsome := Option.isNone_eq_false_iff.mp (eq_false_of_ne_true hparent)
        exact ⟨Nat.not_lt.mp hid, UInt8.not_lt.mp hrate, hsome, rfl, rfl⟩

/-- A key that was inserted was not there before, for any project, and its project exists, though it
may be deleted. -/
theorem insertKey_eq_ok {projectId : Nat} {key : PublicKey}
    (h : s.insertKey projectId key = .ok s') :
    projectId ≤ maxId ∧ key ∉ s.keys.map ProjectKey.key ∧
      (s.project? projectId).isSome = true ∧
      s' = { s with keys := s.keys ++ [⟨projectId, key⟩] } := by
  rw [insertKey] at h
  split at h
  next => cases h
  next hid =>
    split at h
    next => cases h
    next hkey =>
      split at h
      next => cases h
      next hparent =>
        have hsome := Option.isNone_eq_false_iff.mp (eq_false_of_ne_true hparent)
        refine ⟨Nat.not_lt.mp hid, fun hmem => hkey (List.contains_iff_mem.mpr ?_), hsome,
          (Except.ok.inj h).symm⟩
        obtain ⟨k, hk, rfl⟩ := List.mem_map.mp hmem
        exact List.mem_map_of_mem (f := fun k => k.key.text) hk

/-- An issue that was created has a project that exists and the next number. Its text says the
vector without lexemes. -/
theorem createIssue_eq_ok {projectId : Nat} {title : String}
    (h : s.createIssue projectId title = .ok (id, s')) :
    projectId ≤ maxId ∧ (s.project? projectId).isSome = true ∧
      id = nextId (s.issues.map Issue.id) ∧
      s' = { s with issues := s.issues ++ [⟨id, projectId, title, ""⟩] } := by
  rw [createIssue] at h
  split at h
  next => cases h
  next hid =>
    split at h
    next => cases h
    next hparent =>
      obtain ⟨rfl, rfl⟩ := Prod.mk.inj (Except.ok.inj h)
      have hsome := Option.isNone_eq_false_iff.mp (eq_false_of_ne_true hparent)
      exact ⟨Nat.not_lt.mp hid, hsome, rfl, rfl⟩

/-- Setting whether an organization accepts events changes that in its row, and succeeds also if
there is no such row. -/
theorem setAccepting_eq_ok {organizationId : Nat} {accepting : Bool}
    (h : s.setAccepting organizationId accepting = .ok s') :
    organizationId ≤ maxId ∧
      s' = { s with organizations := s.organizations.map fun o =>
        if o.id = organizationId then { o with accepting := accepting } else o } := by
  rw [setAccepting] at h
  split at h
  next => cases h
  next hid => exact ⟨Nat.not_lt.mp hid, (Except.ok.inj h).symm⟩

/-- A soft deletion marks the row of the project and removes nothing, so its keys
and issues stay. -/
theorem softDelete_eq_ok {projectId : Nat} (h : s.softDelete projectId = .ok s') :
    projectId ≤ maxId ∧
      s' = { s with projects := s.projects.map fun p =>
        if p.id = projectId then { p with deleted := true } else p } := by
  rw [softDelete] at h
  split at h
  next => cases h
  next hid => exact ⟨Nat.not_lt.mp hid, (Except.ok.inj h).symm⟩

end EventIntake.Store
