import EventIntake.Proofs.SearchVector.LosslessConcat
import EventIntake.Proofs.Store.Batches

/-!
# Issues that do not exist

A batch is the same without the updates of an issue that does not exist (`skip_missing`), as long as
the issue could exist: a number that is too large for a row makes the whole batch fail, and nothing of
it is kept (`foldlM_of_too_large`). So it is with a single append, and with reading
(`missing_issue`).
-/

namespace EventIntake.Store

variable {s : Store} {how : AppendSettings} {id other : Nat} {us : List Update} {text : List Char}

/-! ## Batches without an issue -/

/-- The updates of the other issues. -/
def without (id : Nat) (us : List Update) : List Update :=
  us.filter (·.1 ≠ id)

theorem textsOf_without (hne : other ≠ id) : textsOf other (without id us) = textsOf other us := by
  rw [textsOf, without, List.filter_filter]
  refine congrArg (List.map Prod.snd) (List.filter_congr fun u _ => ?_)
  by_cases hu : u.1 = other
  · simp [hu, hne]
  · simp [hu]

theorem issueIds_without : issueIds (without id us) = (issueIds us).filter (· ≠ id) := by
  refine List.Pairwise.eq_of_mem_iff (pairwise_issueIds _) ((pairwise_issueIds us).filter _) ?_
  intro other
  rw [List.mem_filter, mem_issueIds, mem_issueIds]
  simp [without]

/-- A batch without the texts for an issue has the same groups as before, apart from that of the
issue. -/
theorem groups_without : groups (without id us) = (groups us).filter (·.1 ≠ id) := by
  rw [groups_eq, groups_eq, issueIds_without, List.filter_map]
  refine List.map_congr_left fun other hother => ?_
  have hne : other ≠ id := by simpa using (List.mem_filter.mp hother).2
  rw [textsOf_without hne]

/-! ## An issue that does not exist -/

/-- No append makes an issue. -/
theorem issue?_appendTo_eq_none (h : s.issue? id = none) (how : AppendSettings) (other : Nat)
    (text : List Char) : (s.appendTo how other text).store.issue? id = none := by
  rcases store_appendTo s how other text with hstore | ⟨t, hstore⟩ <;> rw [hstore]
  · exact h
  · simp [issue?_writeVector, h]

/-- Without an issue that does not exist, the other appends are counted as with it, and leave the
same store. -/
theorem skip_missing (hid : id ≤ maxId) (h : s.issue? id = none) (how : AppendSettings)
    (gs : List (Nat × List (List Char))) (written : Nat) :
    (groupAppends how gs s).foldlM countWritten written =
        (groupAppends how (gs.filter (·.1 ≠ id)) s).foldlM countWritten written ∧
      afterGroups how gs s = afterGroups how (gs.filter (·.1 ≠ id)) s := by
  induction gs generalizing s written with
  | nil => exact ⟨rfl, rfl⟩
  | cons g gs ih =>
    obtain ⟨other, texts⟩ := g
    by_cases hother : other = id
    · -- its append answers that there is no such issue, and is not counted
      subst hother
      have hskip : s.appendTo how other (joinTexts texts) = ⟨.ok none, s, []⟩ :=
        appendTo_of_missing hid h
      have hfilter : ((other, texts) :: gs).filter (·.1 ≠ other) = gs.filter (·.1 ≠ other) := by
        simp
      rw [hfilter, groupAppends, afterGroups, List.foldl_cons]
      simp only [hskip]
      exact ih h written
    · have hfilter : ((other, texts) :: gs).filter (·.1 ≠ id) =
          (other, texts) :: gs.filter (·.1 ≠ id) := by
        simp [hother]
      have hrest := ih (issue?_appendTo_eq_none h how other (joinTexts texts))
      rw [hfilter, groupAppends, groupAppends, afterGroups, afterGroups, List.foldl_cons,
        List.foldl_cons]
      refine ⟨?_, (hrest 0).2⟩
      rcases hresult : (s.appendTo how other (joinTexts texts)).result with e | r
      · rfl
      · simp only [List.foldlM_cons]
        exact (hrest _).1

/-- Texts for an issue that does not exist change neither the result of a batch nor the store it
leaves, wherever they stand among the others. -/
theorem appendBatch_without (hid : id ≤ maxId) (h : s.issue? id = none) (how : AppendSettings)
    (us : List Update) :
    (s.appendBatch how us).result = (s.appendBatch how (without id us)).result ∧
    (s.appendBatch how us).store = (s.appendBatch how (without id us)).store := by
  obtain ⟨hcount, hafter⟩ := skip_missing hid h how (groups us) 0
  have hresult : (s.appendBatch how us).result = (s.appendBatch how (without id us)).result := by
    rw [result_appendBatch, result_appendBatch, appends, appends, groups_without]
    exact hcount
  refine ⟨hresult, ?_⟩
  rw [store_appendBatch, store_appendBatch, hresult, groups_without, hafter]

/-! ## Numbers that are too large -/

/-- The appends of a batch end with a number that is too large. -/
theorem foldlM_of_too_large {gs : List (Nat × List (List Char))} (h : ∃ g ∈ gs, maxId < g.1)
    (s : Store) (written : Nat) :
    (groupAppends how gs s).foldlM countWritten written = .error .idTooLarge := by
  induction gs generalizing s written with
  | nil => simp at h
  | cons g gs ih =>
    obtain ⟨id, texts⟩ := g
    rw [groupAppends]
    by_cases hid : maxId < id
    · simp only [appendTo_of_too_large hid]
      rfl
    · -- this append does not fail, whatever its text, and the number is behind it
      obtain ⟨r, hr⟩ := exists_result_appendTo (Nat.not_lt.mp hid) s how (joinTexts texts)
      have hrest : ∃ g ∈ gs, maxId < g.1 := by simpa [hid] using h
      simp only [hr, List.foldlM_cons]
      exact ih hrest _ _

/-- A number that is too large makes the whole batch fail, and what was appended before it is
undone. -/
theorem appendBatch_of_too_large (h : ∃ u ∈ us, maxId < u.1) (s : Store) (how : AppendSettings) :
    (s.appendBatch how us).result = .error .idTooLarge ∧ (s.appendBatch how us).store = s := by
  have hgroup : ∃ g ∈ groups us, maxId < g.1 := by
    obtain ⟨u, hu, hid⟩ := h
    exact ⟨(u.1, textsOf u.1 us), mem_groups.mpr ⟨List.mem_map_of_mem hu, rfl⟩, hid⟩
  have hresult : (s.appendBatch how us).result = .error .idTooLarge := by
    rw [result_appendBatch]
    exact foldlM_of_too_large hgroup s 0
  refine ⟨hresult, ?_⟩
  rw [store_appendBatch, hresult]

/-! ## What an issue that does not exist changes -/

/-- **Issues that do not exist.** Where an issue does not exist but could, a batch does what it does
without the updates of the issue, an append and a reading answer that there is none, and neither
changes anything. A number that is too large for a row is refused instead, in a batch with all that
is in it; nothing else is. -/
theorem missing_issue (s : Store) (how : AppendSettings) (id : Nat) (us : List Update)
    (text : List Char) (hmissing : s.issue? id = none) :
    (id ≤ maxId →
      (s.appendBatch how us).result = (s.appendBatch how (without id us)).result ∧
      (s.appendBatch how us).store = (s.appendBatch how (without id us)).store) ∧
    ((∃ written, (s.appendBatch how us).result = .ok written) ↔ ∀ u ∈ us, u.1 ≤ maxId) ∧
    ((∃ u ∈ us, maxId < u.1) →
      (s.appendBatch how us).result = .error .idTooLarge ∧ (s.appendBatch how us).store = s) ∧
    (s.append how id text).result = (if maxId < id then .error .idTooLarge else .ok none) ∧
    (s.append how id text).store = s ∧
    s.vector? id = if maxId < id then .error .idTooLarge else .ok none := by
  refine ⟨fun hid => appendBatch_without hid hmissing how us, ⟨?_, ?_⟩,
    fun h => appendBatch_of_too_large h s how, ?_⟩
  · rintro ⟨written, hok⟩ u hu
    refine Nat.not_lt.mp fun hlarge => ?_
    rw [(appendBatch_of_too_large ⟨u, hu, hlarge⟩ s how).1] at hok
    cases hok
  · intro hids
    exact ⟨_, (appendBatch_eq hids s how).2⟩
  · rw [result_append, store_append]
    by_cases hid : maxId < id
    · rw [if_pos hid, if_pos hid, appendTo_of_too_large hid, vector?_of_too_large hid]
      exact ⟨rfl, rfl, rfl⟩
    · rw [if_neg hid, if_neg hid, appendTo_of_missing (Nat.not_lt.mp hid) hmissing]
      refine ⟨rfl, rfl, ?_⟩
      cases stored s (Nat.not_lt.mp hid) with
      | missing _ hread => exact hread
      | unreadable i e hissue => exact nomatch hmissing.symm.trans hissue
      | readable i v hissue => exact nomatch hmissing.symm.trans hissue

/-- A text for an issue, after one for a number that no issue has. -/
def strayUpdates (id : Nat) : List Update :=
  [(id, "lost".toList), (1, "cache miss".toList)]

/-- There is nothing before the words. -/
theorem combined_empty :
    SearchVector.empty.combined "cache miss".toList plain.profile plain.limits = cacheMiss := by
  rw [SearchVector.combined, plain, incoming_cacheMiss]
  exact SearchVector.empty_concat wellFormed_cacheMiss

/-- The text for the issue is written. -/
theorem result_strayUpdates_without :
    (twoIssues.appendBatch plain [(1, "cache miss".toList)]).result = .ok 1 := by
  have hread : twoIssues.vector? 1 = .ok (some .empty) :=
    vector?_eq_ok_some_iff.mpr ⟨"", rfl, parse_empty⟩
  have hresult := (vector?_appendTo hread plain "cache miss".toList).1
  have houtcome : (SearchVector.empty.append "cache miss".toList plain.maxLexemes plain.profile
      plain.limits).outcome = .appended := by
    rw [SearchVector.append_eq, SearchVector.evicted, SearchVector.kept, combined_empty]
    decide
  have hgroups : groups [(1, "cache miss".toList)] = [(1, ["cache miss".toList])] := by
    simp [groups, List.eraseReps, List.eraseRepsBy, List.eraseRepsBy.loop]
  have hjoin : joinTexts ["cache miss".toList] = "cache miss".toList := by decide
  rw [result_appendBatch, appends, hgroups, groupAppends]
  simp only [hjoin, hresult, groupAppends, List.foldlM_cons, countWritten, Except.map,
    Option.any_some, IssueAppend.changed, houtcome]
  rfl

/-- A number that could be an issue's is skipped: the batch appends its other text, and by itself
the append answers that there is no issue. -/
theorem missing_issue_skipped :
    twoIssues.issue? 7 = none ∧ 7 ≤ maxId ∧
    (twoIssues.appendBatch plain (strayUpdates 7)).result = .ok 1 ∧
    (twoIssues.appendBatch plain (strayUpdates 7)).store =
      (twoIssues.appendBatch plain [(1, "cache miss".toList)]).store ∧
    (twoIssues.append plain 7 "lost".toList).result = .ok none ∧
    twoIssues.vector? 7 = .ok none := by
  have hmissing : twoIssues.issue? 7 = none := rfl
  have hid : 7 ≤ maxId := by decide
  obtain ⟨hbatch, -, -, hresult, -, hread⟩ :=
    missing_issue twoIssues plain 7 (strayUpdates 7) "lost".toList hmissing
  obtain ⟨hwritten, hstore⟩ := hbatch hid
  exact ⟨hmissing, hid, hwritten.trans result_strayUpdates_without, hstore, hresult, hread⟩

/-- A number that is too large for a row makes the batch fail and is refused by itself, though it is
no more an issue's than a smaller one that is skipped. -/
theorem missing_issue_too_large :
    twoIssues.issue? (maxId + 1) = none ∧
    (twoIssues.appendBatch plain (strayUpdates (maxId + 1))).result = .error .idTooLarge ∧
    (twoIssues.appendBatch plain (without (maxId + 1) (strayUpdates (maxId + 1)))).result = .ok 1 ∧
    (twoIssues.append plain (maxId + 1) "lost".toList).result = .error .idTooLarge ∧
    twoIssues.vector? (maxId + 1) = .error .idTooLarge := by
  have hid : maxId < maxId + 1 := Nat.lt_succ_self maxId
  have hlarge : ∃ u ∈ strayUpdates (maxId + 1), maxId < u.1 := ⟨_, List.mem_cons_self, hid⟩
  have hbatch := appendBatch_of_too_large hlarge twoIssues plain
  refine ⟨rfl, hbatch.1, result_strayUpdates_without, ?_, vector?_of_too_large hid⟩
  rw [result_append, appendTo_of_too_large hid]

end EventIntake.Store
