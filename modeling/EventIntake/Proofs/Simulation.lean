import EventIntake.Proofs.Maintenance.Recency
import EventIntake.Proofs.Store.ReadBack
import EventIntake.Simulation

/-!
# What a simulation reports

A simulation of an issue whose vector can be read appends every event of every worker, counts every
append once, and finds no text that is no search vector; what it reports is the vector that it leaves,
and the vector stays within the limits (`run_of_readable`). There is no report in any other case, and
the simulation leaves the store as it was (`run_of_not_readable`).
-/

namespace EventIntake.Simulation

variable {how : AppendSettings} {issueId : Nat} {s : Store} {v : SearchVector}
  {counts : OutcomeCounts}

/-! ## Counts -/

namespace OutcomeCounts

/-- Every append is counted once. -/
theorem total_record (c : OutcomeCounts) (a : IssueAppend) : (c.record a).total = c.total + 1 := by
  cases a with
  | unreadable => simp only [record, total]; omega
  | applied r => cases h : r.outcome <;> (simp only [record, total, h]; omega)

/-- An append to a vector that could be read is not counted as one to another text. -/
theorem unreadable_record (c : OutcomeCounts) (r : AppendResult) :
    (c.record (.applied r)).unreadable = c.unreadable := by
  cases h : r.outcome <;> simp only [record, h]

end OutcomeCounts

/-! ## An issue whose vector can be read -/

/-- The texts of some workers in the order in which they are appended. -/
def workerTexts (events : Nat) (workers : List Nat) : List String :=
  workers.flatMap fun worker => (List.range events).map (eventText worker)

theorem length_workerTexts (events : Nat) (workers : List Nat) :
    (workerTexts events workers).length = workers.length * events := by
  induction workers with
  | nil => exact (Nat.zero_mul events).symm
  | cons worker workers ih =>
    rw [workerTexts, List.flatMap_cons, List.length_append, List.length_map, List.length_range,
      ← workerTexts, ih, List.length_cons, Nat.succ_mul, Nat.add_comm]

/-- The vector that texts make of a vector, one after another. -/
def appended (how : AppendSettings) (texts : List String) (v : SearchVector) : SearchVector :=
  v.appendAll how.maxLexemes how.limits (texts.map fun text => (how.profile, text.toList))

/-- Some texts have been appended: each is counted, and the vector is what they make of the one that
was there. -/
structure AllAppended (how : AppendSettings) (issueId : Nat) (texts : List String)
    (counts : OutcomeCounts) (v : SearchVector) (counts' : OutcomeCounts) (s' : Store) : Prop where
  total : counts'.total = counts.total + texts.length
  unreadable : counts'.unreadable = counts.unreadable
  vector : s'.vector? issueId = .ok (some (appended how texts v))

/-- What some workers have appended and what others append after them is appended together. -/
theorem AllAppended.trans {texts texts' : List String} {counts' counts'' : OutcomeCounts}
    {s' s'' : Store} (h : AllAppended how issueId texts counts v counts' s')
    (h' : AllAppended how issueId texts' counts' (appended how texts v) counts'' s'') :
    AllAppended how issueId (texts ++ texts') counts v counts'' s'' := by
  refine ⟨?_, h'.unreadable.trans h.unreadable, ?_⟩
  · rw [h'.total, h.total, List.length_append, Nat.add_assoc]
  · rw [h'.vector, appended, appended, appended, List.map_append, SearchVector.appendAll,
      SearchVector.appendAll, SearchVector.appendAll, List.foldl_append]

/-- Every text of a worker is appended, and is counted with the outcome of its own append. The
induction goes on with the vector that the append leaves. -/
theorem appendTexts_of_readable (h : s.vector? issueId = .ok (some v)) (how : AppendSettings)
    (texts : List String) (counts : OutcomeCounts) :
    ∃ counts' s', appendTexts how issueId texts counts s = (.ok counts', s') ∧
      AllAppended how issueId texts counts v counts' s' := by
  induction texts generalizing s v counts with
  | nil => exact ⟨counts, s, rfl, rfl, rfl, h⟩
  | cons text rest ih =>
    obtain ⟨hresult, hstore⟩ := Store.vector?_appendTo h how text.toList
    rw [← Store.result_append] at hresult
    rw [← Store.store_append] at hstore
    obtain ⟨counts', s', hrest, htotal, hunreadable, hvector⟩ := ih hstore (counts.record _)
    refine ⟨counts', s', ?_, ?_, ?_, hvector⟩
    · simp only [appendTexts, hresult]
      exact hrest
    · rw [htotal, OutcomeCounts.total_record, List.length_cons]
      omega
    · rw [hunreadable, OutcomeCounts.unreadable_record]

/-- The workers go one after the other, each from the store that the one before it leaves. -/
theorem runWorkers_of_readable (h : s.vector? issueId = .ok (some v)) (how : AppendSettings)
    (events : Nat) (workers : List Nat) (counts : OutcomeCounts) :
    ∃ counts' s', runWorkers how issueId events workers counts s = (.ok counts', s') ∧
      AllAppended how issueId (workerTexts events workers) counts v counts' s' := by
  induction workers generalizing s v counts with
  | nil => exact ⟨counts, s, rfl, rfl, rfl, h⟩
  | cons worker workers ih =>
    obtain ⟨counts', s', hfirst, happended⟩ :=
      appendTexts_of_readable h how ((List.range events).map (eventText worker)) counts
    obtain ⟨counts'', s'', hrest, hafter⟩ := ih happended.vector counts'
    refine ⟨counts'', s'', ?_, happended.trans hafter⟩
    rw [runWorkers, hfirst]
    exact hrest

/-- **A simulation counts all its events.** If the vector of the issue can be read, every event of every
worker is appended and counted once, and none as appended to a text that is no search vector. The
vector that is reported is the one that is left, and what was within the limits stays within them. -/
theorem run_of_readable (h : s.vector? issueId = .ok (some v)) (how : AppendSettings)
    (workers events : Nat) :
    ∃ report s', run how issueId workers events s = (.ok (some report), s') ∧
      report.outcomes.total = workers * events ∧ report.outcomes.unreadable = 0 ∧
      s'.vector? issueId = .ok (some report.vector) ∧
      (v.size ≤ how.maxLexemes → report.vector.size ≤ how.maxLexemes) ∧
      (v.byteSize ≤ how.limits.maxVectorBytes →
        report.vector.byteSize ≤ how.limits.maxVectorBytes) := by
  obtain ⟨counts, s', hrun, htotal, hunreadable, hvector⟩ :=
    runWorkers_of_readable h how events (List.range workers) .zero
  refine ⟨⟨issueId, workers, counts, appended how _ v⟩, s', ?_, ?_, hunreadable, hvector,
    fun hsize => SearchVector.size_appendAll_le hsize _ _,
    fun hbytes => SearchVector.byteSize_appendAll_le hbytes _ _⟩
  · rw [run, hrun]
    simp only [hvector]
    rfl
  · rw [htotal, length_workerTexts, List.length_range]
    exact Nat.zero_add _

/-! ## Any other issue -/

/-- An append leaves the store where no vector can be read, and fails only as reading does. That an
issue is missing, or its text says no vector, is an answer and no failure. -/
theorem append_of_not_readable (h : ∀ v, s.vector? issueId ≠ .ok (some v)) (how : AppendSettings)
    (text : List Char) :
    (s.append how issueId text).store = s ∧
      ∀ e, (s.append how issueId text).result = .error e → s.vector? issueId = .error e := by
  rw [Store.store_append, Store.result_append]
  by_cases hid : issueId ≤ Store.maxId
  · cases s.stored hid with
    | missing hissue =>
      rw [Store.appendTo_of_missing hid hissue]
      exact ⟨rfl, nofun⟩
    | unreadable i e hissue hparse =>
      rw [Store.appendTo_of_unreadable hid hissue hparse]
      exact ⟨rfl, nofun⟩
    | readable i v _ hread => exact absurd hread (h v)
  · have hlarge := Nat.lt_of_not_le hid
    rw [Store.appendTo_of_too_large hlarge, Store.vector?_of_too_large hlarge]
    exact ⟨rfl, fun _ he => congrArg _ (Except.error.inj he)⟩

/-- Where the vector cannot be read, no text is appended and the store stays as it is. -/
theorem appendTexts_of_not_readable (h : ∀ v, s.vector? issueId ≠ .ok (some v))
    (how : AppendSettings) (texts : List String) (counts : OutcomeCounts) :
    (appendTexts how issueId texts counts s).2 = s ∧
      ∀ e, (appendTexts how issueId texts counts s).1 = .error e →
        s.vector? issueId = .error e := by
  induction texts generalizing counts with
  | nil => exact ⟨rfl, nofun⟩
  | cons text rest ih =>
    obtain ⟨hstore, herror⟩ := append_of_not_readable h how text.toList
    simp only [appendTexts]
    rcases hresult : (s.append how issueId text.toList).result with e | _ | r
    · refine ⟨hstore, fun _ he => ?_⟩
      cases he
      exact herror e hresult
    · exact ⟨hstore, nofun⟩
    · simp only [hstore]
      exact ih _

theorem runWorkers_of_not_readable (h : ∀ v, s.vector? issueId ≠ .ok (some v))
    (how : AppendSettings) (events : Nat) (workers : List Nat) (counts : OutcomeCounts) :
    (runWorkers how issueId events workers counts s).2 = s ∧
      ∀ e, (runWorkers how issueId events workers counts s).1 = .error e →
        s.vector? issueId = .error e := by
  induction workers generalizing counts with
  | nil => exact ⟨rfl, nofun⟩
  | cons worker workers ih =>
    obtain ⟨hstore, herror⟩ := appendTexts_of_not_readable h how
      ((List.range events).map (eventText worker)) counts
    rw [runWorkers]
    rcases hfirst : appendTexts how issueId ((List.range events).map (eventText worker)) counts s
      with ⟨e | counts', s'⟩
    · rw [hfirst] at hstore herror
      exact ⟨hstore, herror⟩
    · rw [hfirst] at hstore
      rw [show s' = s from hstore]
      exact ih counts'

/-- If the vector of the issue cannot be read, the simulation leaves the store as it was. It fails as
reading fails, or there is no report since there is no such issue. -/
theorem run_of_not_readable (h : ∀ v, s.vector? issueId ≠ .ok (some v)) (how : AppendSettings)
    (workers events : Nat) :
    run how issueId workers events s = ((s.vector? issueId).map fun _ => none, s) := by
  obtain ⟨hstore, herror⟩ :=
    runWorkers_of_not_readable h how events (List.range workers) .zero
  rw [run]
  rcases hrun : runWorkers how issueId events (List.range workers) .zero s with ⟨e | counts, s'⟩
  · rw [hrun] at hstore herror
    rw [herror e rfl, show s' = s from hstore]
    rfl
  · rw [hrun] at hstore
    obtain rfl : s' = s := hstore
    rcases hread : s'.vector? issueId with e | _ | v
    · simp only [hread]
      rfl
    · simp only [hread]
      rfl
    · exact absurd hread (h v)

end EventIntake.Simulation
