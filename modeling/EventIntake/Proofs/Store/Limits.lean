import EventIntake.Proofs.Store.Operations

/-!
# Stored vectors stay within the limits

While all appends share their limits, every stored text is a search vector within them
(`VectorsWithin`), whatever else is done to the store. So no append of a run finds a text that is no
search vector or a vector that takes too many bytes (`run_within_limits`). The empty store has no
vectors, a new issue has the empty one, and an append keeps its vector within the limits; a batch is
appends one after another, or leaves everything as it was.
-/

namespace EventIntake.Store

/-- What an append answers in a store whose vectors are within the limits. -/
inductive Answer (how : AppendSettings) : Except StoreError (Option IssueAppend) → Prop
  /-- it fails -/
  | failed (e : StoreError) : Answer how (.error e)
  /-- there is no such issue -/
  | missing : Answer how (.ok none)
  /-- the text is appended to a vector within the limits -/
  | applied {existing : SearchVector} {text : List Char} {r : AppendResult}
    (hwf : existing.WellFormed) (hsize : existing.size ≤ how.maxLexemes)
    (hbytes : existing.byteSize ≤ how.limits.maxVectorBytes)
    (h : existing.Appending text how.maxLexemes how.profile how.limits r) :
    Answer how (.ok (some (.applied r)))

/-- The append found a vector that can be read and does not take too many bytes, or no issue. -/
def Orderly (a : Except StoreError (Option IssueAppend)) : Prop :=
  a ≠ .ok (some .unreadable) ∧ ∀ r, a = .ok (some (.applied r)) → r.outcome ≠ .saturated

theorem Answer.orderly {how : AppendSettings} {a : Except StoreError (Option IssueAppend)}
    (h : Answer how a) : Orderly a := by
  refine ⟨fun hunreadable => ?_, fun r hr => ?_⟩
  · subst hunreadable
    cases h
  · subst hr
    cases h with
    | applied _ _ hbytes h => exact (h.byteSize_le hbytes).2

/-- Every stored text is a search vector with at most `n` lexemes that takes at most so many bytes. -/
def VectorsWithin (n bytes : Nat) (s : Store) : Prop :=
  ∀ i ∈ s.issues, ∃ v, SearchVector.parse i.vector = .ok v ∧ v.size ≤ n ∧ v.byteSize ≤ bytes

variable {n bytes : Nat} {s : Store}

theorem vectorsWithin_empty (n bytes : Nat) : VectorsWithin n bytes empty :=
  fun _ hi => absurd hi List.not_mem_nil

/-- The text of a new issue says the vector without lexemes. -/
theorem parse_empty : SearchVector.parse "" = .ok .empty :=
  SearchVector.wellFormed_empty.parse_text

/-! ## Rows -/

/-- A new issue keeps the store within the limits, since a vector without lexemes takes no more than
eight bytes. -/
theorem VectorsWithin.createIssue (h : VectorsWithin n bytes s) (hbytes : 8 ≤ bytes)
    {projectId id : Nat} {title : String} {s' : Store}
    (hok : s.createIssue projectId title = .ok (id, s')) : VectorsWithin n bytes s' := by
  obtain ⟨-, -, -, rfl⟩ := createIssue_eq_ok hok
  intro i hi
  rcases List.mem_append.mp hi with hi | hi
  · exact h i hi
  · rw [List.mem_singleton.mp hi]
    exact ⟨.empty, parse_empty, Nat.zero_le n, hbytes⟩

/-- So does a vector that is within the limits itself, since it is read back from its text. -/
theorem VectorsWithin.writeVector (h : VectorsWithin n bytes s) {v : SearchVector}
    (hv : v.WellFormed) (hsize : v.size ≤ n) (hbytes : v.byteSize ≤ bytes) (id : Nat) :
    VectorsWithin n bytes (s.writeVector id v.text) := by
  intro j hj
  obtain ⟨i, hi, rfl⟩ := List.mem_map.mp hj
  split
  · exact ⟨v, hv.parse_text, hsize, hbytes⟩
  · exact h i hi

/-- The stored text of an issue is that of a row. -/
theorem VectorsWithin.vectorText? (h : VectorsWithin n bytes s) {id : Nat} {stored : String}
    (htext : s.vectorText? id = .ok (some stored)) :
    ∃ v, SearchVector.parse stored = .ok v ∧ v.size ≤ n ∧ v.byteSize ≤ bytes := by
  rw [Store.vectorText?] at htext
  split at htext
  · cases htext
  · obtain ⟨i, hi, rfl⟩ := Option.map_eq_some_iff.mp (Except.ok.inj htext)
    exact h i (List.mem_of_find?_eq_some hi)

/-! ## Appends -/

variable {how : AppendSettings}

/-- An append keeps every vector within the limits, and finds its vector within them. What is found
is well-formed, so the limits of one append apply to it. -/
theorem VectorsWithin.appendTo (h : VectorsWithin n bytes s) (hsize : how.maxLexemes = n)
    (hbytes : how.limits.maxVectorBytes = bytes) (id : Nat) (text : List Char) :
    VectorsWithin n bytes (s.appendTo how id text).store ∧
      Answer how (s.appendTo how id text).result := by
  subst hsize hbytes
  rcases htext : s.vectorText? id with e | _ | stored
  · rw [Store.appendTo, htext]
    exact ⟨h, .failed e⟩
  · rw [Store.appendTo, htext]
    exact ⟨h, .missing⟩
  · obtain ⟨v, hparse, hvsize, hvbytes⟩ := h.vectorText? htext
    have hwf : v.WellFormed := SearchVector.wellFormed_of_parse hparse
    have hcase := SearchVector.appending v text how.maxLexemes how.profile how.limits
    rw [appendTo_of_parse htext hparse]
    refine ⟨?_, .applied hwf hvsize hvbytes hcase⟩
    simp only
    split
    · exact h.writeVector (hcase.wellFormed hwf) (hcase.size_le hvsize)
        (hcase.byteSize_le hvbytes).1 id
    · exact h

/-- Appends one after another keep every vector within the limits, and find them so. -/
theorem VectorsWithin.afterGroups (h : VectorsWithin n bytes s) (hsize : how.maxLexemes = n)
    (hbytes : how.limits.maxVectorBytes = bytes) (gs : List (Nat × List (List Char))) :
    VectorsWithin n bytes (afterGroups how gs s) ∧
      ∀ a ∈ groupAppends how gs s, Answer how a := by
  induction gs generalizing s with
  | nil => exact ⟨h, fun _ ha => absurd ha List.not_mem_nil⟩
  | cons g gs ih =>
    obtain ⟨id, texts⟩ := g
    obtain ⟨hstore, hanswer⟩ := h.appendTo hsize hbytes id (joinTexts texts)
    obtain ⟨hafter, hrest⟩ := ih hstore
    refine ⟨hafter, ?_⟩
    rw [groupAppends]
    rcases hresult : (s.appendTo how id (joinTexts texts)).result with e | r
    · rw [hresult] at hanswer
      exact fun a ha => List.mem_singleton.mp ha ▸ hanswer
    · rw [hresult] at hanswer
      exact List.forall_mem_cons.mpr ⟨hanswer, hrest⟩

/-! ## Operations and runs -/

/-- An operation keeps every vector within the limits, and its appends find them so. -/
theorem VectorsWithin.perform (h : VectorsWithin n bytes s) (hmin : 8 ≤ bytes) {op : Operation}
    (hop : ∀ how, op.settings? = some how →
      how.maxLexemes = n ∧ how.limits.maxVectorBytes = bytes) :
    VectorsWithin n bytes (s.perform op).2 ∧
      ∀ a ∈ s.appends op, ∃ how, op.settings? = some how ∧ Answer how a := by
  -- the rows of the other tables have no vectors
  have hrow (hop : op.writes .issues = false) : VectorsWithin n bytes (s.perform op).2 := by
    rw [VectorsWithin, (perform_untouched s op).2.2.2 hop]
    exact h
  cases op with
  | insertOrganization => exact ⟨hrow rfl, fun _ ha => absurd ha List.not_mem_nil⟩
  | insertProject => exact ⟨hrow rfl, fun _ ha => absurd ha List.not_mem_nil⟩
  | insertKey => exact ⟨hrow rfl, fun _ ha => absurd ha List.not_mem_nil⟩
  | setAccepting => exact ⟨hrow rfl, fun _ ha => absurd ha List.not_mem_nil⟩
  | softDelete => exact ⟨hrow rfl, fun _ ha => absurd ha List.not_mem_nil⟩
  | createIssue projectId title =>
    refine ⟨?_, fun _ ha => absurd ha List.not_mem_nil⟩
    rw [Store.perform]
    rcases hok : s.createIssue projectId title with e | ⟨id, s'⟩
    · exact h
    · exact h.createIssue hmin hok
  | append how id text =>
    obtain ⟨hsize, hbytes⟩ := hop how rfl
    obtain ⟨hstore, hanswer⟩ := h.appendTo hsize hbytes id text
    rw [perform_append, appends, result_append]
    exact ⟨hstore, fun a ha => ⟨how, rfl, List.mem_singleton.mp ha ▸ hanswer⟩⟩
  | appendBatch how updates =>
    obtain ⟨hsize, hbytes⟩ := hop how rfl
    obtain ⟨hafter, hanswer⟩ := h.afterGroups hsize hbytes (groups updates)
    refine ⟨?_, fun a ha => ⟨how, rfl, hanswer a ha⟩⟩
    rw [perform_appendBatch, store_appendBatch]
    split
    · exact hafter
    · exact h

/-- Operations that share their limits keep every vector within them. -/
theorem VectorsWithin.run (h : VectorsWithin n bytes s) (hmin : 8 ≤ bytes) {ops : List Operation}
    (hops : ∀ op ∈ ops, ∀ how, op.settings? = some how →
      how.maxLexemes = n ∧ how.limits.maxVectorBytes = bytes) :
    VectorsWithin n bytes (s.run ops) :=
  run_keeps h fun op hop _ hs => (hs.perform hmin (hops op hop)).1

/-- **The limits hold.** When all appends of a run from the empty store share their limits and their
greatest number of lexemes, every stored text is a search vector within the limits, and no append of
the run finds a text that is no search vector or a vector that takes too many bytes. -/
theorem run_within_limits (limits : IndexLimits) (n : Nat) (hmin : 8 ≤ limits.maxVectorBytes)
    (ops : List Operation)
    (hops : ∀ op ∈ ops, ∀ how, op.settings? = some how →
      how.maxLexemes = n ∧ how.limits = limits) :
    VectorsWithin n limits.maxVectorBytes (empty.run ops) ∧
      ∀ before op after, ops = before ++ op :: after →
        ∀ a ∈ (empty.run before).appends op, Orderly a := by
  have hshared : ∀ op ∈ ops, ∀ how, op.settings? = some how →
      how.maxLexemes = n ∧ how.limits.maxVectorBytes = limits.maxVectorBytes := by
    intro op hop how hhow
    obtain ⟨hsize, hlimits⟩ := hops op hop how hhow
    exact ⟨hsize, congrArg IndexLimits.maxVectorBytes hlimits⟩
  have hempty := vectorsWithin_empty n limits.maxVectorBytes
  refine ⟨hempty.run hmin hshared, ?_⟩
  rintro before op after rfl a ha
  have hbefore : VectorsWithin n limits.maxVectorBytes (empty.run before) :=
    hempty.run hmin fun op' hop' => hshared op' (List.mem_append_left _ hop')
  have hop := hshared op (List.mem_append_right _ List.mem_cons_self)
  obtain ⟨how, -, hanswer⟩ := (hbefore.perform hmin hop).2 a ha
  exact hanswer.orderly

/-- Limits that are reached soon. -/
def tightLimits : IndexLimits := ⟨40, 60, .recent⟩

/-- At most three lexemes within the tight limits. -/
def tight (profile : Profile) : AppendSettings := ⟨3, profile, tightLimits⟩

/-- A batch for an issue that exists and one that does not. -/
def tightBatch : Operation :=
  .appendBatch (tight Configuration.standard.profile)
    [(1, "the worker timed out".toList), (9, "lost".toList), (1, "again".toList)]

/-- A run in which an issue gets a text, its project is deleted, and it gets two texts more. -/
def tightRun : List Operation :=
  [.insertOrganization "Acme" true 0 false, .insertProject 1 "backend" true 0 none,
    .createIssue 1 "Timeout",
    .append (tight Configuration.simple.profile) 1 "cache miss, cache miss".toList,
    .softDelete 1, tightBatch]

/-- The limits hold in a run in which they are tight, with two profiles, and with a batch after the
project is deleted. -/
theorem run_within_limits_tight :
    8 ≤ tightLimits.maxVectorBytes ∧
    (∀ op ∈ tightRun, ∀ how, op.settings? = some how →
      how.maxLexemes = 3 ∧ how.limits = tightLimits) ∧
    VectorsWithin 3 60 (empty.run tightRun) ∧
    ∀ a ∈ (empty.run (tightRun.take 5)).appends tightBatch, Orderly a := by
  have hmin : 8 ≤ tightLimits.maxVectorBytes := by decide
  have hops : ∀ op ∈ tightRun, ∀ how, op.settings? = some how →
      how.maxLexemes = 3 ∧ how.limits = tightLimits := by
    simp [tightRun, tightBatch, Operation.settings?, tight]
  obtain ⟨hwithin, horderly⟩ := run_within_limits tightLimits 3 hmin tightRun hops
  exact ⟨hmin, hops, hwithin, horderly (tightRun.take 5) tightBatch [] rfl⟩

end EventIntake.Store
