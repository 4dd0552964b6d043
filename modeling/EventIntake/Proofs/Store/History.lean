import EventIntake.Proofs.Store.NumberedTable

/-!
# What a run leaves

The organizations and the projects are tables of numbered rows (`organizationTable`, `projectTable`).
So a project that is there stays with its values, and is deleted once it was marked (`project?_run`).
An organization that is there stays with its values, and lets events in as it was last told
(`organization?_run`). A key that is there stays (`mem_keys_run`). What is there after a run from the
empty store is what the run inserted: `ProjectInsertion`, `OrganizationInsertion` and `KeyInsertion`
are the places in a run where this happened.
-/

namespace EventIntake.Store

variable {s t : Store} {op : Operation} {ops : List Operation} {id : Nat}

/-! ## Organizations -/

/-- What an operation tells an organization about letting events in, if anything. -/
def Operation.accepting? (id : Nat) : Operation → Option Bool
  | .setAccepting organizationId accepting =>
    if organizationId = id then some accepting else none
  | _ => none

/-- What an operation makes of an organization. Nothing is told to a number that fits no row. -/
def Operation.changeOrganization (op : Operation) (o : Organization) : Organization :=
  { o with accepting :=
      if o.id ≤ maxId then (op.accepting? o.id).getD o.accepting else o.accepting }

/-- The organization that an operation adds. -/
def addedOrganization? (s : Store) : Operation → Option Organization
  | .insertOrganization name accepting rate scrubs =>
    match s.insertOrganization name accepting rate scrubs with
    | .ok (id, _) => some ⟨id, name, accepting, rate, scrubs⟩
    | .error _ => none
  | _ => none

/-- An operation that adds an organization is an insertion with the same values that succeeded. -/
theorem addedOrganization?_eq_some {o : Organization} (h : s.addedOrganization? op = some o) :
    op = .insertOrganization o.name o.accepting o.rate o.scrubs ∧
      ∃ t, s.insertOrganization o.name o.accepting o.rate o.scrubs = .ok (o.id, t) := by
  cases op with
  | insertOrganization name accepting rate scrubs =>
    rw [addedOrganization?] at h
    split at h
    next hok =>
      obtain rfl := Option.some.inj h
      exact ⟨rfl, _, hok⟩
    next => cases h
  | _ => cases h

theorem map_changeOrganization (h : ∀ id ≤ maxId, op.accepting? id = none)
    (rows : List Organization) : rows.map op.changeOrganization = rows := by
  refine (List.map_congr_left fun o _ => ?_).trans (List.map_id rows)
  rw [Operation.changeOrganization]
  split
  next hid => rw [h o.id hid, Option.getD_none, id]
  next => rfl

/-- An operation changes some organizations, and may add one behind them. It removes none. -/
theorem organizations_perform (s : Store) (op : Operation) :
    (s.perform op).2.organizations =
      s.organizations.map op.changeOrganization ++ (s.addedOrganization? op).toList := by
  cases op with
  | insertOrganization name accepting rate scrubs =>
    rw [map_changeOrganization fun _ _ => rfl, perform, addedOrganization?]
    rcases hok : s.insertOrganization name accepting rate scrubs with e | ⟨id, t⟩
    · exact (List.append_nil _).symm
    · obtain ⟨-, -, rfl⟩ := insertOrganization_eq_ok hok
      rfl
  | setAccepting organizationId accepting =>
    have hnone : s.addedOrganization? (.setAccepting organizationId accepting) = none := rfl
    rw [perform, hnone, Option.toList_none, List.append_nil]
    rcases hok : s.setAccepting organizationId accepting with e | t
    · -- it is refused, since the number fits no row
      refine (map_changeOrganization (fun id hid => ?_) s.organizations).symm
      refine if_neg fun heq => ?_
      rw [setAccepting, heq, if_neg (Nat.not_lt.mpr hid)] at hok
      cases hok
    · obtain ⟨hid, rfl⟩ := setAccepting_eq_ok hok
      refine List.map_congr_left fun o _ => ?_
      rw [Operation.changeOrganization, Operation.accepting?]
      by_cases heq : o.id = organizationId
      · rw [if_pos heq, if_pos (heq ▸ hid), if_pos heq.symm, Option.getD_some]
      · rw [if_neg heq, if_neg (Ne.symm heq), Option.getD_none, ite_self]
  | _ =>
    rw [(perform_untouched s _).1 rfl, map_changeOrganization fun _ _ => rfl]
    exact (List.append_nil _).symm

/-- The organizations are a table of numbered rows. -/
def organizationTable : NumberedTable Organization where
  rows := organizations
  number := Organization.id
  change := Operation.changeOrganization
  added? := addedOrganization?
  rows_empty := rfl
  rows_perform := organizations_perform
  number_change _ _ := rfl
  number_added h := by
    obtain ⟨-, t, hok⟩ := addedOrganization?_eq_some h
    exact (insertOrganization_eq_ok hok).2.1

/-- What operations tell an organization last, or what was said before if they tell it nothing. -/
def latestAccepting (id : Nat) (accepting : Bool) (ops : List Operation) : Bool :=
  (ops.filterMap (Operation.accepting? id)).getLastD accepting

theorem latestAccepting_cons (id : Nat) (accepting : Bool) (op : Operation) (ops : List Operation) :
    latestAccepting id accepting (op :: ops) =
      latestAccepting id ((op.accepting? id).getD accepting) ops := by
  rw [latestAccepting, latestAccepting]
  rcases hop : op.accepting? id with _ | told
  · rw [List.filterMap_cons_none hop]
    rfl
  · rw [List.filterMap_cons_some hop, List.getLastD_cons]
    rfl

/-- What lets no events in goes on so until it is told to let them in. -/
theorem latestAccepting_eq_false (h : .setAccepting id true ∉ ops) :
    latestAccepting id false ops = false := by
  induction ops with
  | nil => rfl
  | cons op ops ih =>
    obtain ⟨hop, hops⟩ := not_or.mp (mt List.mem_cons.mpr h)
    have htold : (op.accepting? id).getD false = false := by
      cases op with
      | setAccepting organizationId accepting =>
        rw [Operation.accepting?]
        split
        next heq =>
          refine Bool.eq_false_iff.mpr fun htrue => hop ?_
          rw [heq, show accepting = true from htrue]
        next => rfl
      | _ => rfl
    rw [latestAccepting_cons, htold]
    exact ih hops

/-- Through a run an organization keeps its values, and lets events in as it is told. -/
theorem changes_organization {o : Organization} (hid : o.id ≤ maxId) (ops : List Operation) :
    organizationTable.changes ops o =
      { o with accepting := latestAccepting o.id o.accepting ops } := by
  induction ops generalizing o with
  | nil => rfl
  | cons op ops ih =>
    have hop : organizationTable.change op o =
        { o with accepting := (op.accepting? o.id).getD o.accepting } :=
      congrArg (fun accepting => { o with accepting := accepting }) (if_pos hid)
    rw [organizationTable.changes_cons, hop, latestAccepting_cons]
    exact ih hid

/-- An organization that is there stays through a run, and lets events in as it was last told. -/
theorem organization?_run {o : Organization} (hid : id ≤ maxId) (h : s.organization? id = some o)
    (ops : List Operation) :
    (s.run ops).organization? id =
      some { o with accepting := latestAccepting id o.accepting ops } := by
  obtain rfl : o.id = id := by simpa using List.find?_some h
  have hrun := organizationTable.find?_run h ops
  rw [changes_organization hid] at hrun
  exact hrun

/-! ## Projects -/

/-- Whether an operation marks a project as deleted. -/
def Operation.marks (id : Nat) : Operation → Bool
  | .softDelete projectId => projectId = id
  | _ => false

theorem Operation.marks_eq_true : op.marks id = true ↔ op = .softDelete id := by
  cases op <;> simp [marks]

/-- What an operation makes of a project. Nothing is marked under a number that fits no row. -/
def Operation.changeProject (op : Operation) (p : Project) : Project :=
  { p with deleted := p.deleted || (p.id ≤ maxId && op.marks p.id) }

/-- The project that an operation adds. -/
def addedProject? (s : Store) : Operation → Option Project
  | .insertProject organizationId name scrubs rate firstEvent =>
    match s.insertProject organizationId name scrubs rate firstEvent with
    | .ok (id, _) => some ⟨id, organizationId, name, scrubs, rate, firstEvent, false⟩
    | .error _ => none
  | _ => none

theorem addedProject?_eq_some {p : Project} (h : s.addedProject? op = some p) :
    op = .insertProject p.organizationId p.name p.scrubs p.rate p.firstEvent ∧
      ∃ t, s.insertProject p.organizationId p.name p.scrubs p.rate p.firstEvent =
        .ok (p.id, t) := by
  cases op with
  | insertProject organizationId name scrubs rate firstEvent =>
    rw [addedProject?] at h
    split at h
    next hok =>
      obtain rfl := Option.some.inj h
      exact ⟨rfl, _, hok⟩
    next => cases h
  | _ => cases h

theorem map_changeProject (h : ∀ id ≤ maxId, op.marks id = false) (rows : List Project) :
    rows.map op.changeProject = rows := by
  refine (List.map_congr_left fun p _ => ?_).trans (List.map_id rows)
  have hunmarked : (decide (p.id ≤ maxId) && op.marks p.id) = false := by
    by_cases hid : p.id ≤ maxId
    · rw [h p.id hid, Bool.and_false]
    · rw [decide_eq_false hid, Bool.false_and]
  rw [Operation.changeProject, hunmarked, Bool.or_false, id]

/-- An operation marks some projects as deleted, and may add one behind them. It removes none. -/
theorem projects_perform (s : Store) (op : Operation) :
    (s.perform op).2.projects =
      s.projects.map op.changeProject ++ (s.addedProject? op).toList := by
  cases op with
  | insertProject organizationId name scrubs rate firstEvent =>
    rw [map_changeProject fun _ _ => rfl, perform, addedProject?]
    rcases hok : s.insertProject organizationId name scrubs rate firstEvent with e | ⟨id, t⟩
    · exact (List.append_nil _).symm
    · obtain ⟨-, -, -, -, rfl⟩ := insertProject_eq_ok hok
      rfl
  | softDelete projectId =>
    have hnone : s.addedProject? (.softDelete projectId) = none := rfl
    rw [perform, hnone, Option.toList_none, List.append_nil]
    rcases hok : s.softDelete projectId with e | t
    · -- it is refused, since the number fits no row
      refine (map_changeProject (fun id hid => ?_) s.projects).symm
      refine decide_eq_false fun heq => ?_
      rw [softDelete, heq, if_neg (Nat.not_lt.mpr hid)] at hok
      cases hok
    · obtain ⟨hid, rfl⟩ := softDelete_eq_ok hok
      refine List.map_congr_left fun p _ => ?_
      rw [Operation.changeProject, Operation.marks]
      by_cases heq : p.id = projectId
      · rw [if_pos heq, decide_eq_true (heq ▸ hid), decide_eq_true heq.symm, Bool.and_self,
          Bool.or_true]
      · rw [if_neg heq, decide_eq_false (Ne.symm heq), Bool.and_false, Bool.or_false]
  | _ =>
    rw [(perform_untouched s _).2.1 rfl, map_changeProject fun _ _ => rfl]
    exact (List.append_nil _).symm

/-- The projects are a table of numbered rows. -/
def projectTable : NumberedTable Project where
  rows := projects
  number := Project.id
  change := Operation.changeProject
  added? := addedProject?
  rows_empty := rfl
  rows_perform := projects_perform
  number_change _ _ := rfl
  number_added h := by
    obtain ⟨-, t, hok⟩ := addedProject?_eq_some h
    exact (insertProject_eq_ok hok).2.2.2.1

/-- Through a run a project keeps its values, and is deleted if it is marked. -/
theorem changes_project {p : Project} (hid : p.id ≤ maxId) (ops : List Operation) :
    projectTable.changes ops p = { p with deleted := p.deleted || ops.any (·.marks p.id) } := by
  induction ops generalizing p with
  | nil => rw [List.any_nil, Bool.or_false]; rfl
  | cons op ops ih =>
    have hop : projectTable.change op p = { p with deleted := p.deleted || op.marks p.id } := by
      refine congrArg (fun deleted => { p with deleted := deleted }) ?_
      rw [decide_eq_true hid, Bool.true_and]
    rw [projectTable.changes_cons, hop, List.any_cons, ← Bool.or_assoc]
    exact ih hid

/-- A project that is there stays through a run, and is deleted if it was marked. Nothing else of
its row is changed by any operation. -/
theorem project?_run {p : Project} (hid : id ≤ maxId) (h : s.project? id = some p)
    (ops : List Operation) :
    ∃ deleted, (s.run ops).project? id = some { p with deleted := deleted } ∧
      (deleted = true ↔ p.deleted = true ∨ .softDelete id ∈ ops) := by
  obtain rfl : p.id = id := by simpa using List.find?_some h
  have hrun := projectTable.find?_run h ops
  rw [changes_project hid] at hrun
  refine ⟨_, hrun, ?_⟩
  rw [Bool.or_eq_true, List.any_eq_true]
  simp only [Operation.marks_eq_true, exists_eq_right]

/-! ## Keys -/

/-- A key that is there stays. -/
theorem mem_keys_run {k : ProjectKey} (h : k ∈ s.keys) (ops : List Operation) :
    k ∈ (s.run ops).keys := by
  refine run_keeps (P := fun s => k ∈ s.keys) h fun op _ s hk => ?_
  have hop := keysAfter s op
  generalize (s.perform op).2.keys = keys at hop
  cases hop with
  | same => exact hk
  | added => exact List.mem_append_left _ hk

/-! ## Insertions -/

/-- A place in a run from the empty store where a project was inserted and given this number. -/
structure ProjectInsertion (ops : List Operation) (id : Nat) where
  before : List Operation
  organizationId : Nat
  name : String
  scrubs : Bool
  rate : UInt8
  firstEvent : Option Instant
  after : List Operation
  split : ops = before ++ .insertProject organizationId name scrubs rate firstEvent :: after
  given : ∃ t, (empty.run before).insertProject organizationId name scrubs rate firstEvent =
    .ok (id, t)

/-- A place in a run from the empty store where an organization was inserted and given this number. -/
structure OrganizationInsertion (ops : List Operation) (id : Nat) where
  before : List Operation
  name : String
  accepting : Bool
  rate : UInt8
  scrubs : Bool
  after : List Operation
  split : ops = before ++ .insertOrganization name accepting rate scrubs :: after
  given : ∃ t, (empty.run before).insertOrganization name accepting rate scrubs = .ok (id, t)

/-- A place in a run from the empty store where a key was inserted. -/
structure KeyInsertion (ops : List Operation) (projectId : Nat) (key : PublicKey) where
  before : List Operation
  after : List Operation
  split : ops = before ++ .insertKey projectId key :: after
  done : ∃ t, (empty.run before).insertKey projectId key = .ok t

/-- A project that was inserted is there with its values, and is deleted if it was marked since. -/
theorem ProjectInsertion.project? (i : ProjectInsertion ops id) (hid : id ≤ maxId) :
    ∃ deleted, (empty.run ops).project? id =
        some ⟨id, i.organizationId, i.name, i.scrubs, i.rate, i.firstEvent, deleted⟩ ∧
      (deleted = true ↔ .softDelete id ∈ i.after) := by
  obtain ⟨before, organizationId, name, scrubs, rate, firstEvent, after, rfl, t, hok⟩ := i
  have hadded : projectTable.added? (empty.run before)
      (.insertProject organizationId name scrubs rate firstEvent) =
        some ⟨id, organizationId, name, scrubs, rate, firstEvent, false⟩ := by
    simp only [projectTable, addedProject?, hok]
  obtain ⟨deleted, hrun, hdeleted⟩ := project?_run hid (projectTable.find?_added hadded) after
  rw [← run_cons, ← run_append] at hrun
  exact ⟨deleted, hrun, hdeleted.trans (or_iff_right Bool.false_ne_true)⟩

/-- An organization that was inserted is there with its values, and lets events in as it was last
told. -/
theorem OrganizationInsertion.organization? (j : OrganizationInsertion ops id) (hid : id ≤ maxId) :
    (empty.run ops).organization? id =
      some ⟨id, j.name, latestAccepting id j.accepting j.after, j.rate, j.scrubs⟩ := by
  obtain ⟨before, name, accepting, rate, scrubs, after, rfl, t, hok⟩ := j
  have hadded : organizationTable.added? (empty.run before)
      (.insertOrganization name accepting rate scrubs) =
        some ⟨id, name, accepting, rate, scrubs⟩ := by
    simp only [organizationTable, addedOrganization?, hok]
  have hrun := organization?_run hid (organizationTable.find?_added hadded) after
  rw [← run_cons, ← run_append] at hrun
  exact hrun

/-- A project that is there after a run was inserted by it. -/
theorem exists_projectInsertion (h : ((empty.run ops).project? id).isSome = true) :
    Nonempty (ProjectInsertion ops id) := by
  obtain ⟨before, op, after, p, hsplit, hadded, rfl⟩ := projectTable.isSome_find?_run_iff.mp h
  obtain ⟨rfl, hok⟩ := addedProject?_eq_some hadded
  exact ⟨⟨before, _, _, _, _, _, after, hsplit, hok⟩⟩

/-- An organization that is there after a run was inserted by it. -/
theorem exists_organizationInsertion (h : ((empty.run ops).organization? id).isSome = true) :
    Nonempty (OrganizationInsertion ops id) := by
  obtain ⟨before, op, after, o, hsplit, hadded, rfl⟩ :=
    organizationTable.isSome_find?_run_iff.mp h
  obtain ⟨rfl, hok⟩ := addedOrganization?_eq_some hadded
  exact ⟨⟨before, _, _, _, _, after, hsplit, hok⟩⟩

/-- The keys after a run are those that it inserted. A key is in the table because an insertion
succeeded, and stays there for good. -/
theorem mem_keys_run_empty {projectId : Nat} {key : PublicKey} :
    ⟨projectId, key⟩ ∈ (empty.run ops).keys ↔ Nonempty (KeyInsertion ops projectId key) := by
  constructor
  · intro h
    obtain ⟨before, op, after, hsplit, hbefore, hafter⟩ :=
      exists_first (P := fun s => ⟨projectId, key⟩ ∈ s.keys) List.not_mem_nil h
    have hop := keysAfter (empty.run before) op
    generalize ((empty.run before).perform op).2.keys = keys at hop hafter
    cases hop with
    | same => exact absurd hafter hbefore
    | added hok =>
      have hk := List.mem_singleton.mp ((List.mem_append.mp hafter).resolve_left hbefore)
      obtain ⟨rfl, rfl⟩ := ProjectKey.mk.inj hk
      exact ⟨⟨before, after, hsplit, _, hok⟩⟩
  · rintro ⟨before, after, rfl, t, hok⟩
    rw [run_append, run_cons, perform, hok]
    obtain ⟨-, -, -, rfl⟩ := insertKey_eq_ok hok
    exact mem_keys_run (List.mem_append_right _ (List.mem_singleton.mpr rfl)) after

/-! ## Rows are told apart -/

/-- No two rows of a table have the same number, and no two the same public key. -/
structure Distinct (s : Store) : Prop where
  organizations : (s.organizations.map Organization.id).Nodup
  projects : (s.projects.map Project.id).Nodup
  keys : (s.keys.map ProjectKey.key).Nodup

/-- A key is only added if it is not there. -/
theorem nodup_keys_concat (h : (s.keys.map ProjectKey.key).Nodup) {projectId : Nat}
    {key : PublicKey} (hok : s.insertKey projectId key = .ok t) :
    ((s.keys ++ [ProjectKey.mk projectId key]).map ProjectKey.key).Nodup := by
  obtain ⟨-, hkey, -, -⟩ := insertKey_eq_ok hok
  rw [List.map_append, List.map_singleton, ← List.concat_eq_append]
  exact h.concat hkey

/-- No key is there twice: an insertion checks this, and no other operation touches the keys. -/
theorem nodup_keys_run (ops : List Operation) :
    ((empty.run ops).keys.map ProjectKey.key).Nodup := by
  refine run_keeps (P := fun s => (s.keys.map ProjectKey.key).Nodup) List.nodup_nil
    fun op _ s h => ?_
  have hop := keysAfter s op
  generalize (s.perform op).2.keys = keys at hop ⊢
  cases hop with
  | same => exact h
  | added hok => exact nodup_keys_concat h hok

/-- In a store that has come about by operations, rows are told apart by their numbers and keys. -/
theorem distinct_run (ops : List Operation) : Distinct (empty.run ops) :=
  ⟨organizationTable.nodup_numbers_run ops, projectTable.nodup_numbers_run ops, nodup_keys_run ops⟩

end EventIntake.Store
