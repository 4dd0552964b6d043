import EventIntake.CommandLine.Run
import EventIntake.Proofs.Access.Authentication
import EventIntake.Proofs.Maintenance.Limits
import EventIntake.Proofs.Store.Operations

/-!
# What valid settings are good for

The settings of access and of the index are refused if one of their numbers is zero, and for nothing
else (`AccessSettings.fault?_eq_none_iff`, `SearchSettings.fault?_eq_none_iff`). So valid settings may
ask for what cannot be done. No rejection can be remembered for more than a thousand years: with a
longer lifetime there is no authenticator, and a command that needs one fails
(`Command.run_resolve_of_unusable`). And even a vector without lexemes takes eight bytes: within
fewer no text is ever appended, and every issue stays without a lexeme (`Store.Unindexed.run`). Apart
from these, valid settings work (`valid_settings_work_unless`).
-/

namespace EventIntake

/-! ## Valid sections -/

/-- Access settings are valid if and only if rejections are remembered with them. -/
theorem AccessSettings.fault?_eq_none_iff {s : AccessSettings} :
    s.fault? = none ↔ s.remembers = true := by
  rw [fault?, remembers]
  split_ifs with hcapacity hlifetime
  · simp [hcapacity]
  · simp [hlifetime]
  · simp [hcapacity, hlifetime]

/-- Settings of the index are valid if and only if none of the numbers is zero. -/
theorem SearchSettings.fault?_eq_none_iff {s : SearchSettings} :
    s.fault? = none ↔
      0 < s.maxLexemes ∧ 0 < s.limits.maxInputBytes ∧ 0 < s.limits.maxVectorBytes := by
  rw [fault?]
  split_ifs with hlexemes hinput hvector
  · simp [hlexemes]
  · simp [hinput]
  · simp [hvector]
  · simp only [true_iff]
    omega

/-! ## Authenticating -/

section Authenticating

variable {settings : Settings} {draws : Draws} {options : ResolveOptions} {store : Store}

/-- Where the source always answers, every event is decided about, in each of the ways in which it
may be authenticated. -/
theorem AccessSettings.exists_decision {source : Source}
    (hsource : ∀ projectId key, ∃ c, source projectId key = .ok c) (s : AccessSettings)
    (cache : RejectionCache) (projectId : Nat) (rawKey : String) (draws : Draws) :
    ∃ d, (s.authenticate source cache projectId rawKey draws).result = .ok d := by
  have ha := authenticating s source cache projectId rawKey draws
  generalize s.authenticate source cache projectId rawKey draws = a at ha ⊢
  cases ha with
  | @failed _ key _ _ e hask =>
    obtain ⟨c, hanswer⟩ := hsource projectId key
    exact nomatch hask.symm.trans hanswer
  | frozen | malformed | remembered | unknown | closed | unlimited | throttled | passed =>
    exact ⟨_, rfl⟩

/-- With usable settings there is a decision for every store and all options. -/
theorem Settings.decide_of_usable (h : settings.access.usable = true) :
    ∃ d, settings.decide draws options store = .ok (.decided d) := by
  have hsource : ∀ projectId key, ∃ c, store.source projectId key = .ok c :=
    fun projectId key => ⟨store.context? projectId key, rfl⟩
  simp only [decide, h, Bool.not_true, Bool.false_eq_true, if_false]
  split
  · exact ⟨_, rfl⟩
  next e herror =>
    obtain ⟨d, hdecided⟩ := AccessSettings.exists_decision hsource settings.access []
      options.projectId _ draws
    exact nomatch hdecided.symm.trans herror

/-- With settings that cannot be used there is no decision, whatever is asked. -/
theorem Settings.decide_of_unusable (h : settings.access.usable = false) :
    settings.decide draws options store = .error .unusableSettings := by
  simp only [decide, h, Bool.not_false, if_true]

/-- Without an authenticator a command that needs one fails, and leaves the store. -/
theorem Command.run_resolve_of_unusable (h : settings.access.usable = false) (files : Files)
    (chance : Chance) (options : ResolveOptions) (store : Store) :
    (Command.resolve options).run settings files chance store =
      (.error .unusableSettings, store) := by
  rw [Command.run]
  split
  · rfl
  · simp only [Settings.decide_of_unusable h]

end Authenticating

/-! ## Limits that no vector keeps -/

namespace Store

variable {s : Store} {how : AppendSettings} {op : Operation} {ops : List Operation}

/-- Where no vector fits, an append leaves the store. Every vector takes at least eight bytes, so
the existing one is refused for them. -/
theorem store_appendTo_of_cramped (hcramped : how.limits.maxVectorBytes < 8) (s : Store) (id : Nat)
    (text : List Char) : (s.appendTo how id text).store = s := by
  rw [appendTo]
  split
  · rfl
  · rfl
  · split
    · rfl
    next existing _ =>
      have hfull : how.limits.maxVectorBytes < existing.byteSize :=
        Nat.lt_of_lt_of_le hcramped (SearchVector.le_byteSize existing)
      have houtcome := (SearchVector.appending existing text how.maxLexemes how.profile
        how.limits).outcome_eq_saturated_iff.mpr hfull
      simp only [houtcome]
      rfl

/-- A batch of appends changes nothing where no vector fits. -/
theorem afterGroups_of_cramped (hcramped : how.limits.maxVectorBytes < 8)
    (gs : List (Nat × List (List Char))) (s : Store) : afterGroups how gs s = s := by
  induction gs with
  | nil => rfl
  | cons g gs ih =>
    rw [afterGroups, List.foldl_cons, store_appendTo_of_cramped hcramped]
    exact ih

/-- No issue has a lexeme. -/
def Unindexed (s : Store) : Prop :=
  ∀ i ∈ s.issues, i.vector = ""

/-- An operation gives no issue a lexeme, if no vector fits. New issues have none, and appends leave
the store as it is. -/
theorem Unindexed.perform (h : Unindexed s)
    (hop : ∀ how, op.settings? = some how → how.limits.maxVectorBytes < 8) :
    Unindexed (s.perform op).2 := by
  -- the rows of the other tables have no vectors
  have hrow (hop : op.writes .issues = false) : Unindexed (s.perform op).2 := by
    rw [Unindexed, (perform_untouched s op).2.2.2 hop]
    exact h
  cases op with
  | insertOrganization | insertProject | insertKey | setAccepting | softDelete => exact hrow rfl
  | createIssue projectId title =>
    rw [Store.perform]
    rcases hok : s.createIssue projectId title with e | ⟨id, t⟩
    · exact h
    · obtain ⟨-, -, -, rfl⟩ := createIssue_eq_ok hok
      exact List.forall_mem_append.mpr ⟨h, fun i hi => by rw [List.mem_singleton.mp hi]⟩
  | append how id text =>
    rw [perform_append, store_appendTo_of_cramped (hop how rfl)]
    exact h
  | appendBatch how updates =>
    rw [perform_appendBatch, store_appendBatch, afterGroups_of_cramped (hop how rfl)]
    split <;> exact h

/-- Operations give no issue a lexeme, if no vector fits. -/
theorem Unindexed.run (h : Unindexed s)
    (hops : ∀ op ∈ ops, ∀ how, op.settings? = some how → how.limits.maxVectorBytes < 8) :
    Unindexed (s.run ops) :=
  run_keeps h fun op hop _ hs => hs.perform (hops op hop)

theorem unindexed_empty : Unindexed empty :=
  fun _ hi => absurd hi List.not_mem_nil

end Store

/-! ## Settings that work -/

/-- With the settings an authenticator can be built, and decides about every event. -/
def Settings.Authenticates (settings : Settings) : Prop :=
  ∀ draws options store, ∃ d, settings.decide draws options store = .ok (.decided d)

/-- With the settings no text is turned away from an issue that has none yet for the bytes that its
vector takes. -/
def Settings.TakesTexts (settings : Settings) : Prop :=
  ∀ (profile : Profile) (text : List Char),
    (SearchVector.empty.append text settings.search.maxLexemes profile
      settings.search.limits).outcome ≠ .saturated

/-- Settings authenticate if and only if their times can be used. -/
theorem Settings.authenticates_iff {settings : Settings} :
    settings.Authenticates ↔ settings.access.usable = true := by
  refine ⟨fun h => ?_, fun h _ _ _ => decide_of_usable h⟩
  by_contra hunusable
  obtain ⟨d, hd⟩ := h [] ⟨0, none, none, none⟩ .empty
  rw [decide_of_unusable (Bool.eq_false_iff.mpr hunusable)] at hd
  cases hd

/-- Settings take texts if and only if a vector without lexemes fits. -/
theorem Settings.takesTexts_iff {settings : Settings} :
    settings.TakesTexts ↔ 8 ≤ settings.search.limits.maxVectorBytes := by
  have hsaturated (profile : Profile) (text : List Char) :
      (SearchVector.empty.append text settings.search.maxLexemes profile
        settings.search.limits).outcome = .saturated ↔ settings.search.limits.maxVectorBytes < 8 :=
    (SearchVector.appending .empty text _ profile _).outcome_eq_saturated_iff
  simp only [TakesTexts, ne_eq, hsaturated, Nat.not_lt, forall_const]
  exact ⟨fun h => h (Configuration.standard.profile), fun h _ => h⟩

/-- **When valid settings work.** With valid settings rejections are remembered. An authenticator can
be built with them, unless a rejection is to be remembered for more than a thousand years; then every
command that needs one fails. No text is turned away from an issue that has none yet, unless a vector
may take no more than one to seven bytes; then no issue ever gets a lexeme, whatever is done to the
store. -/
theorem valid_settings_work_unless (settings : Settings)
    (haccess : settings.access.fault? = none) (hsearch : settings.search.fault? = none) :
    settings.access.remembers = true ∧
    (¬ settings.Authenticates ↔
      AccessSettings.longestLifetime < settings.access.cache.lifetime) ∧
    (¬ settings.Authenticates → ∀ files chance options store,
      (Command.resolve options).run settings files chance store =
        (.error .unusableSettings, store)) ∧
    (¬ settings.TakesTexts ↔
      1 ≤ settings.search.limits.maxVectorBytes ∧ settings.search.limits.maxVectorBytes ≤ 7) ∧
    (¬ settings.TakesTexts → ∀ ops : List Store.Operation,
      (∀ op ∈ ops, ∀ how, op.settings? = some how → how.limits = settings.search.limits) →
        (Store.empty.run ops).Unindexed) := by
  have hvector := (SearchSettings.fault?_eq_none_iff.mp hsearch).2.2
  refine ⟨AccessSettings.fault?_eq_none_iff.mp haccess, ?_, ?_, ?_, ?_⟩
  · rw [Settings.authenticates_iff, AccessSettings.usable, decide_eq_true_iff, Nat.not_le]
  · intro hno
    rw [Settings.authenticates_iff] at hno
    exact Command.run_resolve_of_unusable (Bool.eq_false_iff.mpr hno)
  · rw [Settings.takesTexts_iff]
    omega
  · intro hno ops hops
    rw [Settings.takesTexts_iff, Nat.not_le] at hno
    refine Store.unindexed_empty.run fun op hop how hhow => ?_
    rw [hops op hop how hhow]
    exact hno

/-- The greatest lifetime and the least number of bytes with which settings work. -/
def extremeSettings : Settings where
  metrics := none
  logging := none
  database := .standard "ingest.db"
  access := ⟨false, 600, ⟨1, 31536000000⟩⟩
  search := ⟨1, .standard, ⟨1, 8, .recent⟩⟩

/-- At the edge, valid settings still work: with the greatest lifetime, and with just enough bytes
for a vector without lexemes. -/
theorem valid_settings_work_unless_extreme :
    extremeSettings.access.fault? = none ∧ extremeSettings.search.fault? = none ∧
    extremeSettings.access.remembers = true ∧ extremeSettings.Authenticates ∧
    extremeSettings.TakesTexts := by
  have haccess : extremeSettings.access.fault? = none := by decide
  have hsearch : extremeSettings.search.fault? = none := by decide
  obtain ⟨hremembers, hauthenticates, -, htakes, -⟩ :=
    valid_settings_work_unless extremeSettings haccess hsearch
  refine ⟨haccess, hsearch, hremembers, not_not.mp fun hno => ?_, not_not.mp fun hno => ?_⟩
  · exact absurd (hauthenticates.mp hno) (by decide)
  · exact absurd (htakes.mp hno) (by decide)

/-- Settings a second and a byte beyond the edge. -/
def overstretchedSettings : Settings where
  metrics := none
  logging := none
  database := .standard "ingest.db"
  access := ⟨false, 600, ⟨10000, 31536000001⟩⟩
  search := ⟨standardMaxLexemes, .standard, ⟨250000, 7, .lexical⟩⟩

/-- Beyond the edge settings are still valid, but there is no authenticator, and even a text without
words is turned away from a new issue. -/
theorem overstretched_settings_valid :
    overstretchedSettings.access.fault? = none ∧ overstretchedSettings.search.fault? = none ∧
    overstretchedSettings.decide [] ⟨5, some "00000001-0000-4000-8000-000000000000", none, none⟩
      .empty = .error .unusableSettings ∧
    (SearchVector.empty.append [] overstretchedSettings.search.maxLexemes
      overstretchedSettings.search.configuration.profile
      overstretchedSettings.search.limits).outcome = .saturated := by
  refine ⟨by decide, by decide, Settings.decide_of_unusable (by decide), ?_⟩
  exact (SearchVector.appending _ _ _ _ _).outcome_eq_saturated_iff.mpr (by decide)

end EventIntake
