import EventIntake.Proofs.Store.ReadBack
import EventIntake.Proofs.Store.Rows

/-!
# What operations do

`Performed` lists what an operation can do: it is refused and leaves the store, or it writes what it
is there for (`performed`). So it leaves all tables alone but the one it writes (`perform_untouched`),
and the keys stay but for one that it may add (`keysAfter`). What each operation of a run keeps, the run
keeps (`run_keeps`), and what a run brings about is brought about by one of its operations
(`exists_first`).
-/

namespace EventIntake.Store

variable {s t : Store} {op : Operation} {ops : List Operation} {id : Nat}

/-! ## One operation -/

/-- What an operation can do: why it failed, if it did, and the store after it. -/
inductive Performed (s : Store) : Operation → Option StoreError × Store → Prop
  /-- the operation is refused -/
  | refused {op : Operation} (e : StoreError) (h : (s.perform op).1 = some e) :
    Performed s op (some e, s)
  /-- an organization is added -/
  | organization {name : String} {accepting scrubs : Bool} {rate : UInt8} {id : Nat} {t : Store}
    (hok : s.insertOrganization name accepting rate scrubs = .ok (id, t)) :
    Performed s (.insertOrganization name accepting rate scrubs) (none, t)
  /-- a project is added -/
  | project {organizationId : Nat} {name : String} {scrubs : Bool} {rate : UInt8}
    {firstEvent : Option Instant} {id : Nat} {t : Store}
    (hok : s.insertProject organizationId name scrubs rate firstEvent = .ok (id, t)) :
    Performed s (.insertProject organizationId name scrubs rate firstEvent) (none, t)
  /-- a key is added -/
  | key {projectId : Nat} {key : PublicKey} {t : Store}
    (hok : s.insertKey projectId key = .ok t) : Performed s (.insertKey projectId key) (none, t)
  /-- an issue is added -/
  | issue {projectId : Nat} {title : String} {id : Nat} {t : Store}
    (hok : s.createIssue projectId title = .ok (id, t)) :
    Performed s (.createIssue projectId title) (none, t)
  /-- an organization begins or ceases to let events in -/
  | accepting {organizationId : Nat} {accepting : Bool} {t : Store}
    (hok : s.setAccepting organizationId accepting = .ok t) :
    Performed s (.setAccepting organizationId accepting) (none, t)
  /-- a project is marked as deleted -/
  | deleted {projectId : Nat} {t : Store} (hok : s.softDelete projectId = .ok t) :
    Performed s (.softDelete projectId) (none, t)
  /-- a text is appended -/
  | appended {how : AppendSettings} {id : Nat} {text : List Char} :
    Performed s (.append how id text) (none, (s.appendTo how id text).store)
  /-- a batch of texts is appended -/
  | batch {how : AppendSettings} {updates : List Update} :
    Performed s (.appendBatch how updates) (none, afterGroups how (groups updates) s)

/-- An append that fails leaves the store. -/
theorem store_appendTo_of_error {how : AppendSettings} {text : List Char} {e : StoreError}
    (h : (s.appendTo how id text).result = .error e) : (s.appendTo how id text).store = s := by
  rw [appendTo] at h ⊢
  split at h
  · rfl
  · cases h
  · split at h <;> cases h

theorem Performed.of_refused {e : StoreError} (h : s.perform op = (some e, s)) :
    Performed s op (s.perform op) := by
  rw [h]
  exact .refused e (congrArg Prod.fst h)

/-- Every operation does one of these. What a store keeps through operations is proved by cases of
this, so only here the operations are opened. -/
theorem performed (s : Store) (op : Operation) : Performed s op (s.perform op) := by
  cases op with
  | insertOrganization name accepting rate scrubs =>
    rcases h : s.insertOrganization name accepting rate scrubs with e | ⟨id, t⟩
    · exact .of_refused (by rw [perform, h])
    · rw [perform, h]
      exact .organization h
  | insertProject organizationId name scrubs rate firstEvent =>
    rcases h : s.insertProject organizationId name scrubs rate firstEvent with e | ⟨id, t⟩
    · exact .of_refused (by rw [perform, h])
    · rw [perform, h]
      exact .project h
  | insertKey projectId key =>
    rcases h : s.insertKey projectId key with e | t
    · exact .of_refused (by rw [perform, h])
    · rw [perform, h]
      exact .key h
  | createIssue projectId title =>
    rcases h : s.createIssue projectId title with e | ⟨id, t⟩
    · exact .of_refused (by rw [perform, h])
    · rw [perform, h]
      exact .issue h
  | setAccepting organizationId accepting =>
    rcases h : s.setAccepting organizationId accepting with e | t
    · exact .of_refused (by rw [perform, h])
    · rw [perform, h]
      exact .accepting h
  | softDelete projectId =>
    rcases h : s.softDelete projectId with e | t
    · exact .of_refused (by rw [perform, h])
    · rw [perform, h]
      exact .deleted h
  | append how id text =>
    rcases h : (s.append how id text).result with e | answer
    · refine .of_refused (e := e) ?_
      have hstore := store_append s how id text
      rw [store_appendTo_of_error (result_append s how id text ▸ h)] at hstore
      simp only [perform, h, hstore]
    · simp only [perform, h, store_append]
      exact .appended
  | appendBatch how updates =>
    have hstore := store_appendBatch s how updates
    rcases h : (s.appendBatch how updates).result with e | written
    · refine .of_refused (e := e) ?_
      rw [h] at hstore
      simp only [perform, h, hstore]
    · rw [h] at hstore
      simp only [perform, h, hstore]
      exact .batch

/-! ## One table -/

/-- The tables. -/
inductive Table
  | organizations
  | projects
  | keys
  | issues

/-- Whether an operation may write a table. -/
def Operation.writes : Operation → Table → Bool
  | .insertOrganization .., .organizations | .setAccepting .., .organizations => true
  | .insertProject .., .projects | .softDelete .., .projects => true
  | .insertKey .., .keys => true
  | .createIssue .., .issues | .append .., .issues | .appendBatch .., .issues => true
  | _, _ => false

/-- An operation leaves the tables alone that it does not write. -/
theorem perform_untouched (s : Store) (op : Operation) :
    (op.writes .organizations = false → (s.perform op).2.organizations = s.organizations) ∧
    (op.writes .projects = false → (s.perform op).2.projects = s.projects) ∧
    (op.writes .keys = false → (s.perform op).2.keys = s.keys) ∧
    (op.writes .issues = false → (s.perform op).2.issues = s.issues) := by
  have hop := performed s op
  generalize s.perform op = r at hop
  cases hop with
  | refused => exact ⟨fun _ => rfl, fun _ => rfl, fun _ => rfl, fun _ => rfl⟩
  | organization hok =>
    obtain ⟨-, -, rfl⟩ := insertOrganization_eq_ok hok
    exact ⟨fun h => absurd h Bool.false_ne_true.symm, fun _ => rfl, fun _ => rfl, fun _ => rfl⟩
  | project hok =>
    obtain ⟨-, -, -, -, rfl⟩ := insertProject_eq_ok hok
    exact ⟨fun _ => rfl, fun h => absurd h Bool.false_ne_true.symm, fun _ => rfl, fun _ => rfl⟩
  | key hok =>
    obtain ⟨-, -, -, rfl⟩ := insertKey_eq_ok hok
    exact ⟨fun _ => rfl, fun _ => rfl, fun h => absurd h Bool.false_ne_true.symm, fun _ => rfl⟩
  | issue hok =>
    obtain ⟨-, -, -, rfl⟩ := createIssue_eq_ok hok
    exact ⟨fun _ => rfl, fun _ => rfl, fun _ => rfl, fun h => absurd h Bool.false_ne_true.symm⟩
  | accepting hok =>
    obtain ⟨-, rfl⟩ := setAccepting_eq_ok hok
    exact ⟨fun h => absurd h Bool.false_ne_true.symm, fun _ => rfl, fun _ => rfl, fun _ => rfl⟩
  | deleted hok =>
    obtain ⟨-, rfl⟩ := softDelete_eq_ok hok
    exact ⟨fun _ => rfl, fun h => absurd h Bool.false_ne_true.symm, fun _ => rfl, fun _ => rfl⟩
  | @appended how id text =>
    have h := sameButVectors_appendTo s how id text
    exact ⟨fun _ => h.organizations, fun _ => h.projects, fun _ => h.keys,
      fun h => absurd h Bool.false_ne_true.symm⟩
  | @batch how updates =>
    have h := sameButVectors_afterGroups how (groups updates) s
    exact ⟨fun _ => h.organizations, fun _ => h.projects, fun _ => h.keys,
      fun h => absurd h Bool.false_ne_true.symm⟩

/-- What an operation can do to the keys. -/
inductive KeysAfter (s : Store) : Operation → List ProjectKey → Prop
  /-- they stay as they are -/
  | same {op : Operation} : KeysAfter s op s.keys
  /-- one is added -/
  | added {projectId : Nat} {key : PublicKey} {t : Store}
    (hok : s.insertKey projectId key = .ok t) :
    KeysAfter s (.insertKey projectId key) (s.keys ++ [⟨projectId, key⟩])

/-- Every operation leaves the keys alone, or is the insertion of a key that adds it behind the
others. -/
theorem keysAfter (s : Store) (op : Operation) : KeysAfter s op (s.perform op).2.keys := by
  cases op with
  | insertKey projectId key =>
    rw [perform]
    rcases hok : s.insertKey projectId key with e | t
    · exact .same
    · obtain ⟨-, -, -, rfl⟩ := insertKey_eq_ok hok
      exact .added hok
  | _ =>
    rw [(perform_untouched s _).2.2.1 rfl]
    exact .same

/-! ## Runs -/

theorem run_cons (s : Store) (op : Operation) (ops : List Operation) :
    s.run (op :: ops) = (s.perform op).2.run ops :=
  rfl

theorem run_append (s : Store) (before after : List Operation) :
    s.run (before ++ after) = (s.run before).run after :=
  List.foldl_append

/-- What holds after a run and did not hold before was brought about by one of its operations. The
first such operation is found by induction on the run. -/
theorem exists_first {P : Store → Prop} (hbefore : ¬ P s) (hafter : P (s.run ops)) :
    ∃ before op after, ops = before ++ op :: after ∧ ¬ P (s.run before) ∧
      P ((s.run before).perform op).2 := by
  induction ops generalizing s with
  | nil => exact absurd hafter hbefore
  | cons op ops ih =>
    by_cases hop : P (s.perform op).2
    · exact ⟨[], op, ops, rfl, hbefore, hop⟩
    · obtain ⟨before, op', after, rfl, hfirst⟩ := ih hop hafter
      exact ⟨op :: before, op', after, rfl, hfirst⟩

/-- What each operation of a run keeps, the run keeps. -/
theorem run_keeps {P : Store → Prop} (h : P s)
    (hkeep : ∀ op ∈ ops, ∀ s, P s → P (s.perform op).2) : P (s.run ops) := by
  induction ops generalizing s with
  | nil => exact h
  | cons op ops ih =>
    obtain ⟨hop, hrest⟩ := List.forall_mem_cons.mp hkeep
    exact ih (hop s h) hrest

end EventIntake.Store
