import EventIntake.Proofs.Access.Authentication
import EventIntake.Proofs.Store.Authorization

/-!
# No stale acceptance

A session is a store that is written to while events are authenticated over it, and the memory of
rejections may lose any of them at any moment. Whatever happened before, an event comes in only with
the context that the store has at that moment, so not for a project that was deleted, and not while
its organization lets no events in (`accepted_is_current`).
-/

namespace EventIntake

/-- A store and the rejections that are remembered over it. -/
structure Session where
  store : Store
  cache : RejectionCache

/-- What happens in a session. -/
inductive Session.Step
  /-- an operation on the store -/
  | write (op : Store.Operation)
  /-- what is remembered about some pairs is lost -/
  | forget (lost : Nat × PublicKey → Bool)
  /-- an event for a project with a key, authenticated with these draws -/
  | event (projectId : Nat) (rawKey : String) (draws : Draws)

namespace Session

variable {settings : AccessSettings} {projectId : Nat} {rawKey : String} {draws : Draws} {c : Context}

/-- Authenticates an event over the store. -/
def authenticate (settings : AccessSettings) (x : Session) (projectId : Nat) (rawKey : String)
    (draws : Draws) : Authentication :=
  settings.authenticate x.store.source x.cache projectId rawKey draws

/-- The session after one step. -/
def step (settings : AccessSettings) (x : Session) : Step → Session
  | .write op => { x with store := (x.store.perform op).2 }
  | .forget lost => { x with cache := x.cache.forget lost }
  | .event projectId rawKey draws =>
    { x with cache := (x.authenticate settings projectId rawKey draws).cache }

/-- The session after steps one after another. -/
def run (settings : AccessSettings) (x : Session) (steps : List Step) : Session :=
  steps.foldl (step settings) x

/-! ## The store of a session -/

/-- The operation of a step that writes. -/
def Step.write? : Step → Option Store.Operation
  | .write op => some op
  | _ => none

/-- The store is as the operations on it left it. -/
theorem store_run (x : Session) (steps : List Step) :
    (x.run settings steps).store = x.store.run (steps.filterMap Step.write?) := by
  induction steps generalizing x with
  | nil => rfl
  | cons st steps ih =>
    rw [run, List.foldl_cons, ← run, ih]
    cases st with
    | write | forget | event => rfl

/-- The writes after one of them go on from the store that it leaves; authentications in between do
not touch the store. -/
theorem store_run_write (x : Session) (before after : List Step) (op : Store.Operation) :
    (x.run settings (before ++ .write op :: after)).store =
      (x.run settings before).store.run (op :: after.filterMap Step.write?) := by
  rw [run, List.foldl_append, ← run, ← run, store_run]
  rfl

/-! ## Accepted events -/

/-- The store lets an event in with a context: the key is the project's, the project is not deleted,
its organization lets events in, and the context is that of their rows. -/
structure Current (s : Store) (projectId : Nat) (rawKey : String) (c : Context)
    (key : PublicKey) (p : Project) (o : Organization) : Prop where
  parsed : PublicKey.parse rawKey = some key
  key_mem : ⟨projectId, key⟩ ∈ s.keys
  project : s.project? projectId = some p
  kept : p.deleted = false
  organization : s.organization? p.organizationId = some o
  accepting : o.accepting = true
  context : c = p.contextIn o
  projectId_eq : c.projectId = projectId
  scrubs_eq : c.scrubs = (o.scrubs || p.scrubs)
  /-- the number of the project is that of a row -/
  fits : projectId ≤ Store.maxId

/-- An event comes in only with the context that the store has now. -/
theorem current_of_accepted {x : Session}
    (h : (x.authenticate settings projectId rawKey draws).result = .ok (.accepted c)) :
    ∃ key p o, Current x.store projectId rawKey c key p o := by
  obtain ⟨key, hkey, hask, hopen⟩ := AccessSettings.source_of_accepted h
  obtain ⟨hid, hmem, p, o, hp, hkept, ho, rfl⟩ :=
    Store.context?_eq_some_iff.mp (Except.ok.inj hask)
  have hproject : p.id = projectId := by simpa using List.find?_some hp
  exact ⟨key, p, o, hkey, hmem, hp, hkept, ho, hopen, rfl, hproject, rfl, hid⟩

/-! ## Earlier writes -/

/-- A project that is not deleted was not there whenever it was to be marked as deleted. So such a
mark can only have come before the insertion. -/
theorem project?_of_kept {x : Session} {before after : List Step} {p : Project}
    (hid : projectId ≤ Store.maxId)
    (hp : (x.run settings (before ++ .write (.softDelete projectId) :: after)).store.project?
      projectId = some p) (hkept : p.deleted = false) :
    (x.run settings before).store.project? projectId = none := by
  refine Option.eq_none_iff_forall_ne_some.mpr fun q hq => ?_
  rw [store_run_write] at hp
  obtain ⟨deleted, hrun, hdeleted⟩ := Store.project?_run hid hq
    (.softDelete projectId :: after.filterMap Step.write?)
  obtain rfl := Option.some.inj (hp.symm.trans hrun)
  exact Bool.false_ne_true (hkept.symm.trans (hdeleted.mpr (Or.inr List.mem_cons_self)))

/-- An organization that lets events in was not there whenever it was to let no events in, if it was
not to let them in again since. -/
theorem organization?_of_accepting {x : Session} {before after : List Step} {organizationId : Nat}
    {o : Organization} (hid : organizationId ≤ Store.maxId)
    (ho : (x.run settings
      (before ++ .write (.setAccepting organizationId false) :: after)).store.organization?
        organizationId = some o) (haccepting : o.accepting = true)
    (hafter : .write (.setAccepting organizationId true) ∉ after) :
    (x.run settings before).store.organization? organizationId = none := by
  refine Option.eq_none_iff_forall_ne_some.mpr fun q hq => ?_
  rw [store_run_write, Store.organization?_run hid hq, Store.latestAccepting_cons,
    Store.Operation.accepting?, if_pos rfl] at ho
  obtain rfl := Option.some.inj ho
  have hwrites : .setAccepting organizationId true ∉ after.filterMap Step.write? := by
    intro hmem
    obtain ⟨st, hst, hwrite⟩ := List.mem_filterMap.mp hmem
    cases st with
    | write op =>
      cases hwrite
      exact hafter hst
    | forget | event => cases hwrite
  exact Bool.false_ne_true ((Store.latestAccepting_eq_false hwrites).symm.trans haccepting)

/-- **No stale acceptance.** Whatever was written, authenticated and lost in a session before, an
event comes in only with the context that the store has at that moment: the key is the project's, the
project is not deleted, and its organization lets events in. So none comes in after the project was
marked as deleted: where it was marked before, it was not there yet. And none comes in between the
organization being told to let no events in and being told to let them in again. -/
theorem accepted_is_current (settings : AccessSettings) (start : Session) (past : List Step)
    (projectId : Nat) (rawKey : String) (draws : Draws) (c : Context)
    (h : ((start.run settings past).authenticate settings projectId rawKey draws).result =
      .ok (.accepted c)) :
    (∃ key p o, Current (start.run settings past).store projectId rawKey c key p o) ∧
    (∀ before after, past = before ++ .write (.softDelete projectId) :: after →
      (start.run settings before).store.project? projectId = none) ∧
    (c.organizationId ≤ Store.maxId →
      ∀ before after, past = before ++ .write (.setAccepting c.organizationId false) :: after →
        .write (.setAccepting c.organizationId true) ∉ after →
          (start.run settings before).store.organization? c.organizationId = none) := by
  obtain ⟨key, p, o, hnow⟩ := current_of_accepted h
  refine ⟨⟨key, p, o, hnow⟩, ?_, ?_⟩
  · rintro before after rfl
    exact project?_of_kept hnow.fits hnow.project hnow.kept
  · rintro hid before after rfl hafter
    have hnumber : o.id = p.organizationId := by simpa using List.find?_some hnow.organization
    have horganization : c.organizationId = p.organizationId := by
      rw [hnow.context]
      exact hnumber
    rw [horganization] at hid hafter ⊢
    have ho := hnow.organization
    rw [horganization] at ho
    exact organization?_of_accepting hid ho hnow.accepting hafter

/-- A session without rows. -/
def fresh : Session := ⟨.empty, []⟩

/-- A project is marked as deleted before it is there, and its organization is told to let no events
in before it is there. Then a key is asked for before it is there, and what is remembered of that is
lost. -/
def eventful : List Step :=
  [.write (.softDelete 1), .write (.setAccepting 1 false),
    .write (.insertOrganization "Acme" true 0 false), .write (.insertProject 1 "backend" true 0 none),
    .event 1 "00000000-0000-4000-8000-000000000000" [], .write (.insertKey 1 (.ofRandomBytes [])),
    .forget fun pair => pair.1 == 1]

/-- The context with which an event comes in then. -/
def acme : Context := ⟨1, 1, true, true, false, 0, 0, none⟩

/-- The event comes in with the context of the rows that are there by then. What was marked or asked
for before they were there has no part in it. -/
theorem accepted_is_current_eventful :
    ((fresh.run .standard eventful).authenticate .standard 1
      "00000000000040008000000000000000" []).result = .ok (.accepted acme) ∧
    (∃ key p o, Current (fresh.run .standard eventful).store 1
      "00000000000040008000000000000000" acme key p o) ∧
    (fresh.run .standard []).store.project? 1 = none ∧
    .write (.setAccepting 1 true) ∉ eventful.drop 2 ∧
    (fresh.run .standard (eventful.take 1)).store.organization? 1 = none := by
  have haccepted : ((fresh.run .standard eventful).authenticate .standard 1
      "00000000000040008000000000000000" []).result = .ok (.accepted acme) := rfl
  have hafter : .write (.setAccepting 1 true) ∉ eventful.drop 2 := by
    simp [eventful]
  obtain ⟨hnow, hdeleted, hclosed⟩ :=
    accepted_is_current .standard fresh eventful 1 _ [] acme haccepted
  exact ⟨haccepted, hnow, hdeleted [] _ rfl, hafter,
    hclosed (by decide) (eventful.take 1) (eventful.drop 2) rfl hafter⟩

end Session

end EventIntake
