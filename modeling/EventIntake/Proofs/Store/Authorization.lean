import EventIntake.Proofs.Store.History
import Mathlib.Data.List.Nodup
import Mathlib.Data.List.ProdSigma
import Mathlib.Data.Option.Basic

/-!
# Authorization by history

After operations from the empty store there is a context for a project and a key exactly if the key
was inserted for the project and the project was not marked as deleted since (`Authorized`). Its
values are those that the project and its organization were inserted with, and the organization lets
events in as it was last told. Of all rows of a key, a project and an organization, at most one
answers (`authorization_by_history`).
-/

namespace EventIntake

/-- The context of a project in its organization. -/
def Project.contextIn (p : Project) (o : Organization) : Context where
  projectId := p.id
  organizationId := o.id
  acceptsEvents := o.accepting
  projectScrubs := p.scrubs
  organizationScrubs := o.scrubs
  projectRate := p.rate
  organizationRate := o.rate
  firstEventAt := p.firstEvent

namespace Store

variable {s : Store} {ops : List Operation} {projectId : Nat} {key : PublicKey} {c : Context}

/-! ## The rows of a context -/

/-- There is a context exactly if the project has the key, and is there and not deleted, and so is its
organization. -/
theorem context?_eq_some_iff :
    s.context? projectId key = some c ↔
      projectId ≤ maxId ∧ ⟨projectId, key⟩ ∈ s.keys ∧
        ∃ p o, s.project? projectId = some p ∧ p.deleted = false ∧
          s.organization? p.organizationId = some o ∧ c = p.contextIn o := by
  simp only [context?, PublicKey.text_inj, Option.bind_eq_bind, Option.bind_eq_some_iff,
    Option.guard_eq_some']
  constructor
  · rintro ⟨-, hid, k, hk, p, hp, -, hkept, o, ho, hc⟩
    obtain ⟨hkey, hproject⟩ : k.key = key ∧ k.projectId = projectId := by
      simpa using List.find?_some hk
    have hmem : k ∈ s.keys := List.mem_of_find?_eq_some hk
    subst hkey hproject
    exact ⟨hid, hmem, p, o, hp, by simpa using hkept, ho, (Option.some.inj hc).symm⟩
  · rintro ⟨hid, hk, p, o, hp, hkept, ho, rfl⟩
    obtain ⟨k, hfound⟩ : ∃ k, (s.keys.find? fun k => k.key = key ∧ k.projectId = projectId) = some k := by
      rw [← Option.isSome_iff_exists, List.find?_isSome]
      exact ⟨_, hk, by simp⟩
    exact ⟨(), hid, k, hfound, p, hp, (), by simp [hkept], o, ho, rfl⟩

/-- The rows of a key, a project and an organization that answer for a project and a key. -/
def matchingRows (s : Store) (projectId : Nat) (key : PublicKey) :
    List (ProjectKey × Project × Organization) :=
  (s.keys ×ˢ s.projects ×ˢ s.organizations).filter fun (k, p, o) =>
    p.id = k.projectId ∧ o.id = p.organizationId ∧ k.key = key ∧ p.id = projectId ∧
      p.deleted = false

/-- Among rows with different numbers, one is found under its number. -/
theorem find?_eq_some_iff_of_nodup {α : Type} {rows : List α} {number : α → Nat} {r : α} {id : Nat}
    (h : (rows.map number).Nodup) :
    rows.find? (number · = id) = some r ↔ r ∈ rows ∧ number r = id := by
  constructor
  · intro hr
    exact ⟨List.mem_of_find?_eq_some hr, by simpa using List.find?_some hr⟩
  · rintro ⟨hr, rfl⟩
    obtain ⟨q, hq⟩ : ∃ q, rows.find? (number · = number r) = some q := by
      rw [← Option.isSome_iff_exists, List.find?_isSome]
      exact ⟨r, hr, decide_eq_true rfl⟩
    have hnumber : number q = number r := by simpa using List.find?_some hq
    rw [hq, List.inj_on_of_nodup_map h (List.mem_of_find?_eq_some hq) hr hnumber]

/-- Where rows are told apart by their numbers and keys, the rows for a project and a key are
the ones that looking up finds: the key, its project unless it is deleted, and the
organization of that. -/
theorem Distinct.mem_matchingRows (h : Distinct s) {k : ProjectKey} {p : Project}
    {o : Organization} :
    (k, p, o) ∈ s.matchingRows projectId key ↔
      k = ⟨projectId, key⟩ ∧ k ∈ s.keys ∧ s.project? projectId = some p ∧ p.deleted = false ∧
        s.organization? p.organizationId = some o := by
  rw [matchingRows, List.mem_filter, List.mem_product, List.mem_product, project?, organization?,
    find?_eq_some_iff_of_nodup h.projects, find?_eq_some_iff_of_nodup h.organizations,
    decide_eq_true_eq]
  constructor
  · rintro ⟨⟨hk, hp, ho⟩, hproject, horganization, rfl, rfl, hkept⟩
    exact ⟨by rw [hproject], hk, ⟨hp, rfl⟩, hkept, ho, horganization⟩
  · rintro ⟨rfl, hk, ⟨hp, hproject⟩, hkept, ho, horganization⟩
    exact ⟨⟨hk, hp, ho⟩, hproject, horganization, rfl, hproject, hkept⟩

/-- Where rows are told apart, those that answer are those of the context. -/
theorem Distinct.map_matchingRows (h : Distinct s)
    (hids : ⟨projectId, key⟩ ∈ s.keys → projectId ≤ maxId) :
    (s.matchingRows projectId key).map (fun (_, p, o) => p.contextIn o) =
      (s.context? projectId key).toList := by
  have hnodup : (s.matchingRows projectId key).Nodup :=
    (h.keys.of_map.product (h.projects.of_map.product h.organizations.of_map)).filter _
  rcases hc : s.context? projectId key with _ | c
  · rw [Option.toList_none, List.map_eq_nil_iff, List.eq_nil_iff_forall_not_mem]
    rintro ⟨k, p, o⟩ hrow
    obtain ⟨rfl, hk, hp, hkept, ho⟩ := h.mem_matchingRows.mp hrow
    have hsome := context?_eq_some_iff.mpr ⟨hids hk, hk, p, o, hp, hkept, ho, rfl⟩
    exact nomatch hc.symm.trans hsome
  · obtain ⟨-, hk, p, o, hp, hkept, ho, rfl⟩ := context?_eq_some_iff.mp hc
    have hrows : s.matchingRows projectId key = [(⟨projectId, key⟩, p, o)] := by
      rw [← List.perm_singleton, List.perm_ext_iff_of_nodup hnodup (List.nodup_singleton _)]
      rintro ⟨k', p', o'⟩
      rw [h.mem_matchingRows, List.mem_singleton]
      constructor
      · rintro ⟨rfl, -, hp', -, ho'⟩
        obtain rfl := Option.some.inj (hp.symm.trans hp')
        obtain rfl := Option.some.inj (ho.symm.trans ho')
        rfl
      · rintro hrow
        obtain ⟨rfl, rfl, rfl⟩ : k' = _ ∧ p' = p ∧ o' = o := by simpa using hrow
        exact ⟨rfl, hk, hp, hkept, ho⟩
    rw [hrows, List.map_singleton, Option.toList_some]

/-! ## Authorization -/

/-- A run from the empty store has authorized a key for a project: it inserted the key, and did not
mark the project as deleted since it inserted it. -/
structure Authorized (ops : List Operation) (projectId : Nat) (key : PublicKey) : Prop where
  inserted : Nonempty (KeyInsertion ops projectId key)
  kept : ∀ i : ProjectInsertion ops projectId, .softDelete projectId ∉ i.after

/-- A key that was inserted has a project that was inserted, under a number that fits a row. -/
theorem KeyInsertion.project (k : KeyInsertion ops projectId key) :
    projectId ≤ maxId ∧ Nonempty (ProjectInsertion ops projectId) := by
  obtain ⟨before, after, rfl, t, hok⟩ := k
  obtain ⟨hid, -, hproject, -⟩ := insertKey_eq_ok hok
  obtain ⟨p, hp⟩ := Option.isSome_iff_exists.mp hproject
  obtain ⟨deleted, hrun, -⟩ := project?_run hid hp (.insertKey projectId key :: after)
  rw [← run_append] at hrun
  exact ⟨hid, exists_projectInsertion (Option.isSome_of_eq_some hrun)⟩

/-- A project that was inserted has an organization that was inserted, under a number that fits a
row. -/
theorem ProjectInsertion.organization (i : ProjectInsertion ops projectId) :
    i.organizationId ≤ maxId ∧ Nonempty (OrganizationInsertion ops i.organizationId) := by
  obtain ⟨before, organizationId, name, scrubs, rate, firstEvent, after, rfl, t, hok⟩ := i
  obtain ⟨hid, -, horganization, -, -⟩ := insertProject_eq_ok hok
  obtain ⟨o, ho⟩ := Option.isSome_iff_exists.mp horganization
  have hrun := organization?_run hid ho
    (.insertProject organizationId name scrubs rate firstEvent :: after)
  rw [← run_append] at hrun
  exact ⟨hid, exists_organizationInsertion (Option.isSome_of_eq_some hrun)⟩

/-- The rows of an authorized key are still there: rows are never removed, and those of the project
and its organization were there when the key was inserted. -/
theorem Authorized.exists_context? (h : Authorized ops projectId key) :
    ∃ c, (empty.run ops).context? projectId key = some c := by
  obtain ⟨k⟩ := h.inserted
  obtain ⟨hid, ⟨i⟩⟩ := k.project
  obtain ⟨horganization, ⟨j⟩⟩ := i.organization
  obtain ⟨deleted, hp, hdeleted⟩ := i.project? hid
  have hkept : deleted = false := Bool.eq_false_iff.mpr fun hd => h.kept i (hdeleted.mp hd)
  exact ⟨_, context?_eq_some_iff.mpr ⟨hid, mem_keys_run_empty.mpr h.inserted, _, _, hp, hkept,
    j.organization? horganization, rfl⟩⟩

/-- A key with a context has been inserted, for a project that was not deleted since. The converse
needs the history: a row in a table must have come from some operation. -/
theorem authorized_of_context? (h : (empty.run ops).context? projectId key = some c) :
    Authorized ops projectId key := by
  obtain ⟨hid, hk, p, o, hp, hkept, -, -⟩ := context?_eq_some_iff.mp h
  refine ⟨mem_keys_run_empty.mp hk, fun i hmarked => ?_⟩
  obtain ⟨deleted, hi, hdeleted⟩ := i.project? hid
  obtain rfl := Option.some.inj (hp.symm.trans hi)
  exact Bool.false_ne_true (hkept.symm.trans (hdeleted.mpr hmarked))

/-- **Authorization by history.** After any operations from the empty store there is a context for a
project and a key exactly if the key was inserted for the project and the project was not marked as
deleted since it was inserted; for any other pair the answer is that there is none. The values of the
context are those with which the project and its organization were inserted, wherever in the run that
was, and the organization lets events in as it was last told. And of all rows of a key, a project and
an organization at most one answers, and is the context. -/
theorem authorization_by_history (ops : List Operation) (projectId : Nat) (key : PublicKey) :
    ((∃ c, (empty.run ops).source projectId key = .ok (some c)) ↔
      Authorized ops projectId key) ∧
    (¬ Authorized ops projectId key → (empty.run ops).source projectId key = .ok none) ∧
    (∀ c, (empty.run ops).source projectId key = .ok (some c) →
      (∃ i : ProjectInsertion ops projectId,
        Nonempty (OrganizationInsertion ops i.organizationId)) ∧
      ∀ (i : ProjectInsertion ops projectId) (j : OrganizationInsertion ops i.organizationId),
        c = {
          projectId := projectId
          organizationId := i.organizationId
          acceptsEvents := latestAccepting i.organizationId j.accepting j.after
          projectScrubs := i.scrubs
          organizationScrubs := j.scrubs
          projectRate := i.rate
          organizationRate := j.rate
          firstEventAt := i.firstEvent }) ∧
    ((empty.run ops).matchingRows projectId key).length ≤ 1 ∧
    ((empty.run ops).matchingRows projectId key).map (fun (_, p, o) => p.contextIn o) =
      ((empty.run ops).context? projectId key).toList := by
  have hsource {c : Context} : (empty.run ops).source projectId key = .ok (some c) ↔
      (empty.run ops).context? projectId key = some c := by
    rw [source, Except.ok.injEq]
  have hids : ⟨projectId, key⟩ ∈ (empty.run ops).keys → projectId ≤ maxId := fun hk =>
    (mem_keys_run_empty.mp hk).elim fun k => k.project.1
  have hrows := (distinct_run ops).map_matchingRows hids
  refine ⟨⟨fun ⟨c, hc⟩ => authorized_of_context? (hsource.mp hc), fun h => ?_⟩, fun h => ?_,
    fun c hc => ?_, ?_, hrows⟩
  · obtain ⟨c, hc⟩ := h.exists_context?
    exact ⟨c, hsource.mpr hc⟩
  · rw [source]
    refine congrArg Except.ok (Option.eq_none_iff_forall_ne_some.mpr fun c hc => ?_)
    exact h (authorized_of_context? hc)
  · obtain ⟨hid, -, p, o, hp, -, ho, rfl⟩ := context?_eq_some_iff.mp (hsource.mp hc)
    refine ⟨?_, fun i j => ?_⟩
    · obtain ⟨i⟩ := exists_projectInsertion (Option.isSome_of_eq_some hp)
      exact ⟨i, i.organization.2⟩
    · -- the rows of the project and the organization are those that were inserted
      obtain ⟨deleted, hi, -⟩ := i.project? hid
      obtain rfl := Option.some.inj (hp.symm.trans hi)
      obtain rfl := Option.some.inj (ho.symm.trans (j.organization? i.organization.1))
      rfl
  · rw [← List.length_map, hrows]
    exact Option.length_toList_le

end Store

end EventIntake
