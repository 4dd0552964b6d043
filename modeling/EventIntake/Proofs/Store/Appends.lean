import EventIntake.Proofs.Maintenance.Append
import EventIntake.Proofs.SearchVector.RoundTrip
import EventIntake.Store.Append

/-!
# Appends to issues

An append to an issue whose vector can be read leaves there the vector that `SearchVector.append`
gives (`vector?_appendTo`), and leaves the other issues alone (`vector?_appendTo_ne`). An operation
may append more than once: `appends` gives the answers of all its appends, and what a batch answers is
counted from them (`result_appendBatch`). The appends of a batch come one after another, and if one
of them fails, none is kept (`store_appendBatch`).
-/

namespace EventIntake.Store

variable {s : Store} {how : AppendSettings} {id other : Nat} {text : List Char}

/-! ## Reading what was written -/

/-- Writing a vector changes the row of that issue and of no other, and nothing in the row but the
vector. -/
theorem issue?_writeVector (s : Store) (id other : Nat) (t : String) :
    (s.writeVector id t).issue? other =
      if other = id then (s.issue? other).map fun i => { i with vector := t }
      else s.issue? other := by
  rw [issue?, writeVector, List.find?_map]
  have hid : ((fun i : Issue => decide (i.id = other)) ∘
      fun i : Issue => if i.id = id then { i with vector := t } else i) =
        fun i => decide (i.id = other) := by
    funext i
    by_cases hi : i.id = id <;> simp [hi]
  rw [hid, ← issue?]
  rcases hfound : s.issue? other with _ | i
  · simp
  · have hi : i.id = other := by simpa using List.find?_some hfound
    by_cases ho : other = id
    · simp [hi, ho]
    · simp [hi, ho]

theorem vectorText?_writeVector_ne (hne : other ≠ id) (t : String) :
    (s.writeVector id t).vectorText? other = s.vectorText? other := by
  rw [vectorText?, vectorText?, issue?_writeVector, if_neg hne]

/-- The text that is written is the text that is found afterwards, if there is such an issue. -/
theorem vectorText?_writeVector {stored : String} (h : s.vectorText? id = .ok (some stored))
    (t : String) : (s.writeVector id t).vectorText? id = .ok (some t) := by
  rw [vectorText?] at h ⊢
  split at h
  · cases h
  · rw [if_neg ‹_›, issue?_writeVector, if_pos rfl]
    obtain ⟨i, hi, -⟩ := Option.map_eq_some_iff.mp (Except.ok.inj h)
    rw [hi]
    rfl

theorem vector?_congr {s t : Store} (h : s.vectorText? id = t.vectorText? id) :
    s.vector? id = t.vector? id := by
  rw [vector?, vector?, h]

/-- A vector is read of an issue if and only if the issue has a text that says it. -/
theorem vector?_eq_ok_some_iff {v : SearchVector} :
    s.vector? id = .ok (some v) ↔
      ∃ stored, s.vectorText? id = .ok (some stored) ∧ SearchVector.parse stored = .ok v := by
  rw [vector?]
  rcases s.vectorText? id with e | _ | stored
  · exact ⟨nofun, fun ⟨_, h, _⟩ => nomatch h⟩
  · exact ⟨nofun, fun ⟨_, h, _⟩ => nomatch h⟩
  · rcases hparse : SearchVector.parse stored with e | w
    · simp [bind, Except.bind, hparse, throw, throwThe, MonadExceptOf.throw]
    · simp [bind, Except.bind, hparse, pure, Except.pure]

/-! ## One append -/

/-- An append to an issue whose vector can be read. -/
theorem appendTo_of_parse {stored : String} {existing : SearchVector}
    (htext : s.vectorText? id = .ok (some stored))
    (hparse : SearchVector.parse stored = .ok existing) :
    s.appendTo how id text =
      let r := existing.append text how.maxLexemes how.profile how.limits
      ⟨.ok (some (.applied r)),
        if r.outcome.changed then s.writeVector id r.vector.text else s, r.measurements⟩ := by
  rw [appendTo, htext]
  simp only [hparse]

/-- An append leaves the store as it is or writes the vector of its issue, whatever else is in the
store. -/
theorem store_appendTo (s : Store) (how : AppendSettings) (id : Nat) (text : List Char) :
    (s.appendTo how id text).store = s ∨
      ∃ t, (s.appendTo how id text).store = s.writeVector id t := by
  rw [appendTo]
  split
  · exact Or.inl rfl
  · exact Or.inl rfl
  · split
    · exact Or.inl rfl
    · simp only
      split
      · exact Or.inr ⟨_, rfl⟩
      · exact Or.inl rfl

/-- An append to one issue leaves the others alone. -/
theorem vector?_appendTo_ne (hne : other ≠ id) :
    (s.appendTo how id text).store.vector? other = s.vector? other := by
  refine vector?_congr ?_
  rcases store_appendTo s how id text with hstore | ⟨t, hstore⟩ <;> rw [hstore]
  exact vectorText?_writeVector_ne hne t

/-- What an append answers for an issue whose vector can be read, and the vector that it leaves. The
text that is written is read back as the vector, and where nothing is written the vector has not
changed. -/
theorem vector?_appendTo {existing : SearchVector} (h : s.vector? id = .ok (some existing))
    (how : AppendSettings) (text : List Char) :
    (s.appendTo how id text).result =
        .ok (some (.applied (existing.append text how.maxLexemes how.profile how.limits))) ∧
      (s.appendTo how id text).store.vector? id =
        .ok (some (existing.append text how.maxLexemes how.profile how.limits).vector) := by
  obtain ⟨stored, htext, hparse⟩ := vector?_eq_ok_some_iff.mp h
  have hwf : existing.WellFormed := SearchVector.wellFormed_of_parse hparse
  have hcase := SearchVector.appending existing text how.maxLexemes how.profile how.limits
  rw [appendTo_of_parse htext hparse]
  refine ⟨rfl, ?_⟩
  simp only
  split
  · exact vector?_eq_ok_some_iff.mpr
      ⟨_, vectorText?_writeVector htext _, (hcase.wellFormed hwf).parse_text⟩
  · -- a vector that is not written is the one that is there
    rw [hcase.eq_of_not_changed hwf (Bool.eq_false_iff.mpr ‹_›)]
    exact h

/-! ## The appends of an operation -/

/-- The settings of the appends of an operation. -/
def Operation.settings? : Operation → Option AppendSettings
  | .append how _ _ => some how
  | .appendBatch how _ => some how
  | _ => none

/-- What each append of a batch gives, one issue after another, up to the first that fails. -/
def groupAppends (how : AppendSettings) :
    List (Nat × List (List Char)) → Store → List (Except StoreError (Option IssueAppend))
  | [], _ => []
  | (id, texts) :: rest, s =>
    let a := s.appendTo how id (joinTexts texts)
    match a.result with
    | .error e => [.error e]
    | .ok r => .ok r :: groupAppends how rest a.store

/-- What each append of an operation gives. -/
def appends (s : Store) : Operation → List (Except StoreError (Option IssueAppend))
  | .append how id text => [(s.append how id text).result]
  | .appendBatch how updates => groupAppends how (groups updates) s
  | _ => []

/-- Counts one append more, if it is written. -/
def countWritten (written : Nat) (a : Except StoreError (Option IssueAppend)) :
    Except StoreError Nat :=
  a.map fun r => written + if r.any IssueAppend.changed then 1 else 0

/-- The result of a batch is counted over the results of its appends, one after the other, and ends
with the first that fails. -/
theorem appendGroups_result (how : AppendSettings) (gs : List (Nat × List (List Char)))
    (s : Store) (written : Nat) (ms : List Measurement) :
    (appendGroups how gs s written ms).result =
      (groupAppends how gs s).foldlM countWritten written := by
  induction gs generalizing s written ms with
  | nil => rfl
  | cons g gs ih =>
    obtain ⟨id, texts⟩ := g
    rw [appendGroups, groupAppends]
    rcases hresult : (s.appendTo how id (joinTexts texts)).result with e | r
    · rfl
    · simp only
      rw [ih, List.foldlM_cons]
      rfl

/-! ## Operations that append -/

theorem result_append (s : Store) (how : AppendSettings) (id : Nat) (text : List Char) :
    (s.append how id text).result = (s.appendTo how id text).result := by
  simp only [append]
  split <;> rfl

theorem store_append (s : Store) (how : AppendSettings) (id : Nat) (text : List Char) :
    (s.append how id text).store = (s.appendTo how id text).store := by
  simp only [append]
  split <;> rfl

theorem perform_append (s : Store) (how : AppendSettings) (id : Nat) (text : List Char) :
    (s.perform (.append how id text)).2 = (s.appendTo how id text).store := by
  rw [← store_append]
  simp only [perform]
  split <;> rfl

/-- The store after all appends of a batch, if none fails. -/
def afterGroups (how : AppendSettings) (gs : List (Nat × List (List Char))) (s : Store) : Store :=
  gs.foldl (fun s g => (s.appendTo how g.1 (joinTexts g.2)).store) s

/-- Unless one of its appends fails, a batch leaves the store that they leave one after another. If
one fails, the batch is undone. -/
theorem store_appendGroups (how : AppendSettings) (gs : List (Nat × List (List Char)))
    (s : Store) (written : Nat) (ms : List Measurement)
    (h : ∀ e, (appendGroups how gs s written ms).result ≠ .error e) :
    (appendGroups how gs s written ms).store = afterGroups how gs s := by
  induction gs generalizing s written ms with
  | nil => rfl
  | cons g gs ih =>
    obtain ⟨id, texts⟩ := g
    rw [appendGroups] at h ⊢
    rcases hresult : (s.appendTo how id (joinTexts texts)).result with e | r
    · rw [hresult] at h
      exact absurd rfl (h e)
    · rw [hresult] at h
      simp only at h ⊢
      exact ih _ _ _ h

/-- What a batch answers is counted from the answers of its appends, and is an error if one of them
is. -/
theorem result_appendBatch (s : Store) (how : AppendSettings) (updates : List Update) :
    (s.appendBatch how updates).result =
      (s.appends (.appendBatch how updates)).foldlM countWritten 0 := by
  rw [appends, appendBatch]
  by_cases hnil : (groups updates).isEmpty = true
  · rw [if_pos hnil, List.isEmpty_iff.mp hnil]
    rfl
  · rw [if_neg hnil, ← appendGroups_result how _ s 0 [.batchSize (groups updates).length]]
    simp only
    split <;> rfl

/-- A batch that fails leaves the store as it was, any other as its appends leave it one after
another. -/
theorem store_appendBatch (s : Store) (how : AppendSettings) (updates : List Update) :
    (s.appendBatch how updates).store =
      match (s.appendBatch how updates).result with
      | .ok _ => afterGroups how (groups updates) s
      | .error _ => s := by
  rw [appendBatch]
  by_cases hnil : (groups updates).isEmpty = true
  · rw [if_pos hnil, List.isEmpty_iff.mp hnil]
    rfl
  · rw [if_neg hnil]
    have hstore := store_appendGroups how (groups updates) s 0 [.batchSize (groups updates).length]
    rcases hresult : (appendGroups how (groups updates) s 0
      [.batchSize (groups updates).length]).result with e | written
    · simp only [hresult]
    · simp only [hresult]
      exact hstore fun e he => nomatch hresult.symm.trans he

theorem perform_appendBatch (s : Store) (how : AppendSettings) (updates : List Update) :
    (s.perform (.appendBatch how updates)).2 = (s.appendBatch how updates).store := by
  simp only [perform]
  split <;> rfl

end EventIntake.Store
