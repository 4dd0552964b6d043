import EventIntake.Proofs.Access.PublicKey
import EventIntake.Proofs.Access.Verdicts
import EventIntake.Proofs.Store.Authorization

/-!
# One key, however it is spelled

The store tells keys apart by their texts, and the remembered rejections by their digits. Both come to
the same: a key that was inserted answers under each of its spellings and under no other key
(`Store.context?_insertKey_iff`, `Store.context?_insertKey_of_ne`), and in any run an event may spell
its key the other way (`AccessSettings.authenticateAll_respelled`), while the events of one key leave
those of all others alone (`AccessSettings.authenticate_after_other`).
-/

namespace EventIntake

/-! ## Keys in the store -/

namespace Store

variable {s t : Store} {projectId : Nat} {key other : PublicKey}

/-- A new key has a context for the project that it was inserted for, and for no other. -/
theorem context?_insertKey_iff (hok : s.insertKey projectId key = .ok t) {id : Nat} {c : Context} :
    t.context? id key = some c ↔
      id = projectId ∧ ∃ p o, s.project? projectId = some p ∧ p.deleted = false ∧
        s.organization? p.organizationId = some o ∧ c = p.contextIn o := by
  obtain ⟨hid, hnew, -, rfl⟩ := insertKey_eq_ok hok
  have hkeys : ⟨id, key⟩ ∈ s.keys ++ [⟨projectId, key⟩] ↔ id = projectId := by
    have habsent : (⟨id, key⟩ : ProjectKey) ∉ s.keys := fun hmem =>
      hnew (List.mem_map_of_mem (f := ProjectKey.key) hmem)
    simp [habsent]
  rw [context?_eq_some_iff, hkeys]
  constructor
  · rintro ⟨-, rfl, p, o, hp, hkept, ho, rfl⟩
    exact ⟨rfl, p, o, hp, hkept, ho, rfl⟩
  · rintro ⟨rfl, p, o, hp, hkept, ho, rfl⟩
    exact ⟨hid, rfl, p, o, hp, hkept, ho, rfl⟩

/-- A new key leaves the contexts of all others. -/
theorem context?_insertKey_of_ne (hok : s.insertKey projectId key = .ok t) (hne : other ≠ key)
    (id : Nat) : t.context? id other = s.context? id other := by
  obtain ⟨-, -, -, rfl⟩ := insertKey_eq_ok hok
  have hkeys : (⟨id, other⟩ : ProjectKey) ∈ s.keys ++ [⟨projectId, key⟩] ↔ ⟨id, other⟩ ∈ s.keys := by
    simp [hne]
  refine Option.ext fun c => ?_
  rw [context?_eq_some_iff, context?_eq_some_iff, hkeys]
  rfl

/-- A key that is there is not inserted again. -/
theorem insertKey_insertKey (hok : s.insertKey projectId key = .ok t) {id : Nat} (hid : id ≤ maxId) :
    t.insertKey id key = .error .duplicateKey := by
  obtain ⟨-, -, -, rfl⟩ := insertKey_eq_ok hok
  rw [insertKey, if_neg (Nat.not_lt.mpr hid), if_pos]
  simp

end Store

/-! ## Keys of events -/

namespace AccessSettings

variable {settings : AccessSettings} {source : Source} {cache : RejectionCache} {projectId : Nat}
  {s t : String} {key other : PublicKey} {draws : Draws} {r : Rejection}

/-- What comes of an event depends on its key, but not on how it is spelled. -/
theorem authenticate_respelled (h : PublicKey.parse s = PublicKey.parse t)
    (settings : AccessSettings) (source : Source) (cache : RejectionCache) (projectId : Nat)
    (draws : Draws) :
    settings.authenticate source cache projectId s draws =
      settings.authenticate source cache projectId t draws := by
  rw [authenticate, authenticate, h]

/-- In a run, an event may spell its key the other way. -/
theorem authenticateAll_respelled (h : PublicKey.parse s = PublicKey.parse t)
    (lost : Nat × PublicKey → Bool) (before after : List (Source × Request)) :
    settings.authenticateAll cache draws (before ++ (source, ⟨lost, projectId, s⟩) :: after) =
      settings.authenticateAll cache draws (before ++ (source, ⟨lost, projectId, t⟩) :: after) := by
  induction before generalizing cache draws with
  | nil => simp only [List.nil_append, authenticateAll, authenticate_respelled h]
  | cons call rest ih => exact congrArg (_ :: ·) ih

/-- A rejection that is remembered answers without the source. -/
theorem authenticate_of_remembered (hfrozen : settings.frozen = false)
    (hkey : PublicKey.parse s = some key)
    (hget : cache.get? settings.retryAfter projectId key = some r) :
    settings.authenticate source cache projectId s draws = turnAway r cache draws [.cacheHit] := by
  rw [authenticate, if_neg (Bool.eq_false_iff.mp hfrozen), hkey]
  simp only [hget]

/-- An event leaves what comes of events with other keys, since it remembers nothing about their
pairs. -/
theorem authenticate_after_other (hs : PublicKey.parse s = some key)
    (ht : PublicKey.parse t = some other) (hne : other ≠ key) (source' : Source) (projectId' : Nat)
    (draws' : Draws) :
    { settings.authenticate source' (settings.authenticate source cache projectId s draws).cache
        projectId' t draws' with cache := cache } =
      { settings.authenticate source' cache projectId' t draws' with cache := cache } := by
  let first : Exchange := ⟨source, ⟨fun _ => false, projectId, s⟩, cache, draws⟩
  let second : Exchange := ⟨source', ⟨fun _ => false, projectId', t⟩, cache, draws'⟩
  have hsame : ∀ pair, second.About pair →
      (settings.reply first).cache.code? pair.1 pair.2 = cache.code? pair.1 pair.2 := by
    rintro ⟨id, k⟩ ⟨-, hk⟩
    have hother : k = other := Option.some.inj (hk.symm.trans ht)
    exact code?_reply fun habout => hne (hother.symm.trans (Option.some.inj (habout.2.symm.trans hs)))
  exact congrArg (fun a : Authentication => { a with cache := cache }) (reply_congr hsame)

end AccessSettings

/-! ## Spellings -/

namespace PublicKey

/-- **One key, however it is spelled.** A text is read as a key exactly if it is 32 hexadecimal digits in
either case, without hyphens or with hyphens between groups of 8, 4, 4, 4 and 12; and the text that a
key is written as is read as the key. Two texts that are read give the same key exactly if they agree
without hyphens and in lower case. If they do, a key that the store was given under the one has a
context under the other, for its own project only, and cannot be inserted under the other; in any run,
an event may spell its key either way; and a rejection that is remembered under the one answers under
the other. If they do not, inserting the one leaves all contexts of the other, and an event with the one
leaves what comes of every event with the other. -/
theorem spelling_independence (s t : String) :
    ((∃ k, parse s = some k) ↔ ∃ ds, Arranged s.toList ds ∧ ∀ c ∈ ds, HexDigit.IsHex c) ∧
    (∀ k : PublicKey, parse k.text = some k) ∧
    ∀ k l, parse s = some k → parse t = some l →
      (k = l ↔ bare s = bare t) ∧
      (bare s = bare t →
        (∀ (store store' : Store) (id : Nat), store.insertKey id k = .ok store' →
          (∀ id' c, store'.context? id' l = some c ↔
            id' = id ∧ ∃ p o, store.project? id = some p ∧ p.deleted = false ∧
              store.organization? p.organizationId = some o ∧ c = p.contextIn o) ∧
          ∀ id' ≤ Store.maxId, store'.insertKey id' l = .error .duplicateKey) ∧
        ∀ (settings : AccessSettings) (source : Source) (cache : RejectionCache) (id : Nat)
            (draws : Draws),
          (∀ lost before after,
            settings.authenticateAll cache draws (before ++ (source, ⟨lost, id, s⟩) :: after) =
              settings.authenticateAll cache draws (before ++ (source, ⟨lost, id, t⟩) :: after)) ∧
          ∀ r, settings.frozen = false → cache.get? settings.retryAfter id k = some r →
            settings.authenticate source cache id t draws =
              AccessSettings.turnAway r cache draws [.cacheHit]) ∧
      (bare s ≠ bare t →
        (∀ (store store' : Store) (id : Nat), store.insertKey id k = .ok store' →
          ∀ id', store'.context? id' l = store.context? id' l) ∧
        ∀ (settings : AccessSettings) (cache : RejectionCache) (source source' : Source)
            (id id' : Nat) (draws draws' : Draws),
          { settings.authenticate source' (settings.authenticate source cache id s draws).cache id' t
              draws' with cache := cache } =
            { settings.authenticate source' cache id' t draws' with cache := cache }) := by
  refine ⟨exists_parse_iff, parse_text, fun k l hs ht => ?_⟩
  have hkey := eq_iff_bare_eq hs ht
  refine ⟨hkey, fun hsame => ?_, fun hother => ?_⟩
  · obtain rfl := hkey.mpr hsame
    refine ⟨fun store store' id hok => ?_, fun settings source cache id draws => ⟨?_, ?_⟩⟩
    · exact ⟨fun id' c => Store.context?_insertKey_iff hok, fun id' => Store.insertKey_insertKey hok⟩
    · exact fun lost => AccessSettings.authenticateAll_respelled (hs.trans ht.symm) lost
    · exact fun r hfrozen => AccessSettings.authenticate_of_remembered hfrozen ht
  · have hne : l ≠ k := fun heq => hother (hkey.mp heq.symm)
    refine ⟨fun store store' id hok => Store.context?_insertKey_of_ne hok hne, ?_⟩
    intro settings cache source source' id id' draws draws'
    exact AccessSettings.authenticate_after_other hs ht hne source' id' draws'

/-- A key. -/
def sampleKey : PublicKey :=
  .ofRandomBytes [0x6a, 0x1c, 0x1b, 0x8e, 0x2b, 0x7f, 0x4a, 0x43, 0x9a, 0x3b, 0x2f, 0x0c, 0x9d, 0x1e,
    0x5a, 0x77]

/-- A store with one project, which has no key. -/
def keylessStore : Store :=
  ⟨[⟨1, "acme", true, 0, false⟩], [⟨1, 1, "web", false, 30, none, false⟩], [], []⟩

/-- The key is inserted in groups of capital letters, and found without groups in small letters, where
the rejection of another project is remembered too. A key with another last digit is not found. -/
theorem spelling_independence_sample :
    let s := "6A1C1B8E-2B7F-4A43-9A3B-2F0C9D1E5A77"
    let t := "6a1c1b8e2b7f4a439a3b2f0c9d1e5a77"
    let u := "6a1c1b8e2b7f4a439a3b2f0c9d1e5a78"
    let remembered : RejectionCache := [((2, sampleKey), "v")]
    ∃ k l m store', parse s = some k ∧ parse t = some l ∧ parse u = some m ∧
      bare s = bare t ∧ bare s ≠ bare u ∧ keylessStore.insertKey 1 k = .ok store' ∧
      k = l ∧ k ≠ m ∧
      store'.context? 1 l = some ⟨1, 1, true, false, false, 30, 0, none⟩ ∧
      store'.context? 1 m = keylessStore.context? 1 m ∧
      AccessSettings.standard.authenticate keylessStore.source remembered 2 t [] =
        AccessSettings.turnAway .unauthorized remembered [] [.cacheHit] := by
  have hs : parse "6A1C1B8E-2B7F-4A43-9A3B-2F0C9D1E5A77" = some sampleKey := rfl
  have ht : parse "6a1c1b8e2b7f4a439a3b2f0c9d1e5a77" = some sampleKey := rfl
  obtain ⟨m, hu⟩ : ∃ m, parse "6a1c1b8e2b7f4a439a3b2f0c9d1e5a78" = some m := ⟨_, rfl⟩
  have hsame : bare "6A1C1B8E-2B7F-4A43-9A3B-2F0C9D1E5A77" =
    bare "6a1c1b8e2b7f4a439a3b2f0c9d1e5a77" := by decide
  have hother : bare "6A1C1B8E-2B7F-4A43-9A3B-2F0C9D1E5A77" ≠
    bare "6a1c1b8e2b7f4a439a3b2f0c9d1e5a78" := by decide
  have hok : keylessStore.insertKey 1 sampleKey =
    .ok { keylessStore with keys := [⟨1, sampleKey⟩] } := rfl
  obtain ⟨-, -, halike⟩ := spelling_independence "6A1C1B8E-2B7F-4A43-9A3B-2F0C9D1E5A77"
    "6a1c1b8e2b7f4a439a3b2f0c9d1e5a77"
  obtain ⟨hkey, hfound, -⟩ := halike sampleKey sampleKey hs ht
  obtain ⟨hstored, hanswered⟩ := hfound hsame
  obtain ⟨-, -, hapart⟩ := spelling_independence "6A1C1B8E-2B7F-4A43-9A3B-2F0C9D1E5A77"
    "6a1c1b8e2b7f4a439a3b2f0c9d1e5a78"
  obtain ⟨hdiffer, -, hleft⟩ := hapart sampleKey m hs hu
  have hcontext := ((hstored _ _ 1 hok).1 1 _).mpr ⟨rfl, _, _, rfl, rfl, rfl, rfl⟩
  have hunfound := (hleft hother).1 _ _ 1 hok 1
  have hremembered := (hanswered .standard keylessStore.source [((2, sampleKey), "v")] 2 []).2
    .unauthorized rfl rfl
  exact ⟨sampleKey, sampleKey, m, _, hs, ht, hu, hsame, hother, hok, hkey.mpr hsame,
    fun heq => hother (hdiffer.mp heq), hcontext, hunfound, hremembered⟩

end PublicKey

end EventIntake
