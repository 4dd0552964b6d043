import EventIntake.Proofs.Store.History
import EventIntake.Proofs.Store.MissingIssues

/-!
# Failures and parents

An operation that fails leaves all tables as they were (`perform_of_error`). One that does not fail
keeps what rows have in common: there is a lemma for each way of writing rows, from
`Sound.insertOrganization` to `Sound.of_sameButVectors` for the appends. So every store that is
reached from the empty one is sound (`run_sound`).
-/

namespace EventIntake.Store

variable {s t : Store} {op : Operation} {id : Nat}

/-! ## Failures -/

/-- An operation that fails leaves the store, also if it has already written a part of a batch. -/
theorem perform_of_error {e : StoreError} (h : (s.perform op).1 = some e) :
    (s.perform op).2 = s := by
  have hop := performed s op
  generalize s.perform op = r at h hop ⊢
  cases hop with
  | refused => rfl
  | _ => cases h

/-! ## Rows with parents -/

theorem forall_mem_concat {α : Type} {p : α → Prop} {l : List α} {a : α} (h : ∀ b ∈ l, p b)
    (ha : p a) : ∀ b ∈ l ++ [a], p b :=
  List.forall_mem_append.mpr ⟨h, List.forall_mem_singleton.mpr ha⟩

/-- A parent stays when a row is added to its table. -/
theorem exists_mem_append {α : Type} {p : α → Prop} {l : List α} (h : ∃ a ∈ l, p a) (l' : List α) :
    ∃ a ∈ l ++ l', p a := by
  obtain ⟨a, ha, hp⟩ := h
  exact ⟨a, List.mem_append_left l' ha, hp⟩

/-- A parent stays when some rows of its table are marked. -/
theorem exists_mem_mark {α : Type} {p : α → Prop} {marked : α → Prop} [DecidablePred marked]
    {mark : α → α} {l : List α} (h : ∃ a ∈ l, p a) (hmark : ∀ a, p a → p (mark a)) :
    ∃ a ∈ l.map fun a => if marked a then mark a else a, p a := by
  obtain ⟨a, ha, hp⟩ := h
  refine ⟨_, List.mem_map_of_mem ha, ?_⟩
  split
  · exact hmark a hp
  · exact hp

theorem exists_organization (h : (s.organization? id).isSome = true) :
    ∃ o ∈ s.organizations, o.id = id :=
  List.mem_map.mp (organizationTable.isSome_find?_iff.mp h)

theorem exists_project (h : (s.project? id).isSome = true) : ∃ p ∈ s.projects, p.id = id :=
  List.mem_map.mp (projectTable.isSome_find?_iff.mp h)

theorem sound_empty : Sound empty := by
  constructor <;> simp [empty]

namespace Sound

/-- A new organization has a rate that was checked, and takes no parent from a project. -/
theorem insertOrganization (h : Sound s) {name : String} {accepting scrubs : Bool} {rate : UInt8}
    (hok : s.insertOrganization name accepting rate scrubs = .ok (id, t)) : Sound t := by
  obtain ⟨hrate, -, rfl⟩ := insertOrganization_eq_ok hok
  refine { h with organization_rate := ?_, project_parent := ?_ }
  · exact forall_mem_concat h.organization_rate hrate
  · intro p hp
    exact exists_mem_append (h.project_parent p hp) _

/-- A new project has a rate that was checked and an organization that was looked up. -/
theorem insertProject (h : Sound s) {organizationId : Nat} {name : String} {scrubs : Bool}
    {rate : UInt8} {firstEvent : Option Instant}
    (hok : s.insertProject organizationId name scrubs rate firstEvent = .ok (id, t)) : Sound t := by
  obtain ⟨-, hrate, hparent, -, rfl⟩ := insertProject_eq_ok hok
  refine { h with project_rate := ?_, project_parent := ?_, key_parent := ?_, issue_parent := ?_ }
  · exact forall_mem_concat h.project_rate hrate
  · exact forall_mem_concat h.project_parent (exists_organization hparent)
  · intro k hk
    exact exists_mem_append (h.key_parent k hk) _
  · intro i hi
    exact exists_mem_append (h.issue_parent i hi) _

/-- A new key has a project that was looked up, and differs from all other keys. -/
theorem insertKey (h : Sound s) {projectId : Nat} {key : PublicKey}
    (hok : s.insertKey projectId key = .ok t) : Sound t := by
  have hdistinct := nodup_keys_concat h.keys_distinct hok
  obtain ⟨-, -, hparent, rfl⟩ := insertKey_eq_ok hok
  refine { h with key_parent := ?_, keys_distinct := hdistinct }
  exact forall_mem_concat h.key_parent (exists_project hparent)

/-- A new issue has a project that was looked up. -/
theorem createIssue (h : Sound s) {projectId : Nat} {title : String}
    (hok : s.createIssue projectId title = .ok (id, t)) : Sound t := by
  obtain ⟨-, hparent, -, rfl⟩ := createIssue_eq_ok hok
  refine { h with issue_parent := ?_ }
  exact forall_mem_concat h.issue_parent (exists_project hparent)

/-- A change in whether an organization accepts events touches no rate and no number. -/
theorem setAccepting (h : Sound s) {organizationId : Nat} {accepting : Bool}
    (hok : s.setAccepting organizationId accepting = .ok t) : Sound t := by
  obtain ⟨-, rfl⟩ := setAccepting_eq_ok hok
  refine { h with organization_rate := ?_, project_parent := ?_ }
  · refine List.forall_mem_map.mpr fun o ho => ?_
    split
    · exact h.organization_rate o ho
    · exact h.organization_rate o ho
  · intro p hp
    exact exists_mem_mark (h.project_parent p hp) fun _ ho => ho

/-- A project that is marked as deleted is still a row, and so the parent of its keys and issues. -/
theorem softDelete (h : Sound s) {projectId : Nat} (hok : s.softDelete projectId = .ok t) :
    Sound t := by
  obtain ⟨-, rfl⟩ := softDelete_eq_ok hok
  refine { h with project_rate := ?_, project_parent := ?_, key_parent := ?_, issue_parent := ?_ }
  · refine List.forall_mem_map.mpr fun p hp => ?_
    split
    · exact h.project_rate p hp
    · exact h.project_rate p hp
  · refine List.forall_mem_map.mpr fun p hp => ?_
    split
    · exact h.project_parent p hp
    · exact h.project_parent p hp
  · intro k hk
    exact exists_mem_mark (h.key_parent k hk) fun _ hp => hp
  · intro i hi
    exact exists_mem_mark (h.issue_parent i hi) fun _ hp => hp

/-- Vectors are not a matter of soundness. So appends and batches, which write nothing else, keep a
store sound. -/
theorem of_sameButVectors (h : Sound s) {ids : Nat → Prop} (hsame : SameButVectors ids s t) :
    Sound t := by
  obtain ⟨horganizations, hprojects, hkeys, vector, -, hissues⟩ := hsame
  constructor
  · rw [horganizations]
    exact h.organization_rate
  · rw [hprojects]
    exact h.project_rate
  · rw [horganizations, hprojects]
    exact h.project_parent
  · rw [hprojects, hkeys]
    exact h.key_parent
  · -- the issues have other vectors, but the projects that they had
    rw [hprojects, hissues]
    exact List.forall_mem_map.mpr h.issue_parent
  · rw [hkeys]
    exact h.keys_distinct

/-- Every operation keeps what rows have in common. Those that are refused leave the store, and the
others add or change rows of one table. -/
theorem perform (h : Sound s) (op : Operation) : Sound (s.perform op).2 := by
  have hop := performed s op
  generalize s.perform op = r at hop ⊢
  cases hop with
  | refused => exact h
  | organization hok => exact h.insertOrganization hok
  | project hok => exact h.insertProject hok
  | key hok => exact h.insertKey hok
  | issue hok => exact h.createIssue hok
  | accepting hok => exact h.setAccepting hok
  | deleted hok => exact h.softDelete hok
  | appended => exact h.of_sameButVectors (sameButVectors_appendTo s _ _ _)
  | batch => exact h.of_sameButVectors (sameButVectors_afterGroups _ _ s)

end Sound

/-- **Failures leave nothing, and every row has its parent.** Whatever operations are performed from
the empty store, rates are at most 100, every parent exists, and no public key is there twice; and an
operation that then fails leaves all tables as they were. -/
theorem run_sound (ops : List Operation) :
    Sound (empty.run ops) ∧
    ∀ op e, ((empty.run ops).perform op).1 = some e →
      ((empty.run ops).perform op).2 = empty.run ops :=
  ⟨run_keeps sound_empty fun op _ _ h => h.perform op, fun _ _ => perform_of_error⟩

/-- A project with a key and an issue. -/
def settled : List Operation :=
  [.insertOrganization "Acme" true 0 false, .insertProject 1 "backend" true 0 none,
    .insertKey 1 (.ofRandomBytes []), .createIssue 1 "Timeout"]

/-- Operations that fail then: for a rate, for a parent, for a key that is there already, and for a
number in a batch that comes after the issue. -/
def refusals : List (Operation × StoreError) :=
  [(.insertProject 1 "frontend" false 101 none, .rateOutOfRange),
    (.createIssue 7 "Refused", .missingParent),
    (.insertKey 1 (.ofRandomBytes []), .duplicateKey),
    (.appendBatch plain (strayUpdates (maxId + 1)), .idTooLarge)]

/-- After some operations, each of four others fails for another reason. The store stays sound, and
is the same after each failure. -/
theorem run_sound_refusals :
    Sound (empty.run settled) ∧
    ∀ r ∈ refusals, ((empty.run settled).perform r.1).1 = some r.2 ∧
      ((empty.run settled).perform r.1).2 = empty.run settled := by
  obtain ⟨hsound, hkept⟩ := run_sound settled
  have hlarge : ∃ u ∈ strayUpdates (maxId + 1), maxId < u.1 :=
    ⟨_, List.mem_cons_self, Nat.lt_succ_self maxId⟩
  have hbatch := (appendBatch_of_too_large hlarge (empty.run settled) plain).1
  have hrefused : ∀ r ∈ refusals, ((empty.run settled).perform r.1).1 = some r.2 := by
    simp only [refusals, List.forall_mem_cons]
    refine ⟨rfl, rfl, rfl, ?_, List.forall_mem_nil _⟩
    simp only [perform, hbatch]
  exact ⟨hsound, fun r hr => ⟨hrefused r hr, hkept r.1 r.2 (hrefused r hr)⟩⟩

end EventIntake.Store
