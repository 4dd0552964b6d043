import EventIntake.Proofs.Store.Schedules

/-!
# Batches and single appends

A batch does what single appends of the joined texts do, one for each of its issues and in whatever
order (`batch_eq_single_appends`). The issues of a batch and their texts do not change when it is
reordered and each issue keeps its own order (`groups_congr`). Appends to different issues neither
see nor undo each other (`appendTo_writeVector`): each of them answers as it does in the store before
all of them (`answers_singly`), and the store after them does not depend on their order (`run_perm`).
-/

namespace EventIntake.Store

variable {s : Store} {how : AppendSettings} {id other : Nat} {us us' : List Update}

/-! ## The groups of a batch -/

/-- The issues of a batch in order. -/
def issueIds (us : List Update) : List Nat :=
  (us.map Prod.fst).mergeSort.eraseReps

theorem groups_eq (us : List Update) :
    groups us = (issueIds us).map fun id => (id, textsOf id us) :=
  rfl

theorem mem_issueIds : id ∈ issueIds us ↔ id ∈ us.map Prod.fst := by
  rw [issueIds, mem_eraseReps, List.mem_mergeSort]

/-- No issue is there twice. -/
theorem pairwise_issueIds (us : List Update) : (issueIds us).Pairwise (· < ·) := by
  have hsorted : (us.map Prod.fst).mergeSort.Pairwise fun a b => decide (a ≤ b) = true := by
    refine List.pairwise_mergeSort ?_ ?_ _
    · intro a b c hab hbc
      simp only [decide_eq_true_eq] at hab hbc ⊢
      exact Nat.le_trans hab hbc
    · intro a b
      simpa using Nat.le_total a b
  exact pairwise_eraseReps (hsorted.imp of_decide_eq_true)

/-- A batch takes each issue once, however many texts there are for it. -/
theorem nodup_issueIds (us : List Update) : (issueIds us).Nodup :=
  (pairwise_issueIds us).imp Nat.ne_of_lt

/-- Which issues a batch takes, and in which order, depends on which issues are named and not on the
order of the updates. -/
theorem issueIds_congr (h : ∀ id, id ∈ us.map Prod.fst ↔ id ∈ us'.map Prod.fst) :
    issueIds us = issueIds us' := by
  refine List.Pairwise.eq_of_mem_iff (pairwise_issueIds us) (pairwise_issueIds us') fun id => ?_
  rw [mem_issueIds, mem_issueIds]
  exact h id

theorem mem_ids_iff_textsOf : id ∈ us.map Prod.fst ↔ textsOf id us ≠ [] := by
  simp [textsOf]

/-- What is appended depends on the texts of each issue in their order, and on nothing else. -/
theorem groups_congr (h : ∀ id, textsOf id us' = textsOf id us) : groups us' = groups us := by
  have hids : issueIds us' = issueIds us := by
    refine issueIds_congr fun id => ?_
    rw [mem_ids_iff_textsOf, mem_ids_iff_textsOf, h id]
  rw [groups_eq, groups_eq, hids]
  exact List.map_congr_left fun id _ => congrArg (id, ·) (h id)

/-! ## Appends to different issues -/

/-- Vectors of different issues can be written in either order. -/
theorem writeVector_comm (hne : id ≠ other) (t u : String) :
    (s.writeVector id t).writeVector other u = (s.writeVector other u).writeVector id t := by
  simp only [writeVector, List.map_map]
  refine congrArg (Store.mk s.organizations s.projects s.keys) (List.map_congr_left fun i _ => ?_)
  by_cases hid : i.id = id
  · simp [hid, hne]
  · by_cases hother : i.id = other <;> simp [hid, hother, Ne.symm hne]

/-- What is written to another issue does not change what an append does: it reads and writes the
vector of its own issue only. -/
theorem appendTo_writeVector (hne : id ≠ other) (u : String) (text : List Char) :
    (s.writeVector other u).appendTo how id text =
      { s.appendTo how id text with
        store := (s.appendTo how id text).store.writeVector other u } := by
  rw [appendTo, appendTo, vectorText?_writeVector_ne hne]
  rcases s.vectorText? id with e | _ | stored
  · rfl
  · rfl
  · simp only
    rcases SearchVector.parse stored with e | existing
    · rfl
    · simp only
      split
      · rw [writeVector_comm hne]
      · rfl

/-- An append to another issue does not change what an append gives. -/
theorem result_appendTo_appendTo (hne : id ≠ other) (text text' : List Char) :
    ((s.appendTo how other text').store.appendTo how id text).result =
      (s.appendTo how id text).result := by
  rcases store_appendTo s how other text' with hstore | ⟨u, hstore⟩ <;> rw [hstore]
  rw [appendTo_writeVector hne]

/-- Appends to different issues leave the same store in either order, which is why the order of the
issues in a batch does not matter. -/
theorem store_appendTo_comm (hne : id ≠ other) (text text' : List Char) :
    ((s.appendTo how id text).store.appendTo how other text').store =
      ((s.appendTo how other text').store.appendTo how id text).store := by
  -- whether each of the two writes: what it writes does not depend on the other
  rcases store_appendTo s how other text' with hother | ⟨u, hother⟩
  · rcases store_appendTo s how id text with hid | ⟨t, hid⟩
    · rw [hother, hid, hother]
    · rw [hother, hid, appendTo_writeVector hne.symm, hother]
  · rw [hother, appendTo_writeVector hne]
    rcases store_appendTo s how id text with hid | ⟨t, hid⟩
    · rw [hid, hother]
    · rw [hid, appendTo_writeVector hne.symm, hother, writeVector_comm hne]

/-! ## Single appends -/

/-- Appends, each as an operation of its own. -/
def singly (how : AppendSettings) (calls : List Update) : List Operation :=
  calls.map fun call => .append how call.1 call.2

/-- What the appends of operations answer, one operation after another. -/
def answers (s : Store) : List Operation → List (Except StoreError (Option IssueAppend))
  | [] => []
  | op :: ops => s.appends op ++ (s.perform op).2.answers ops

/-- Single appends leave the store that their appends leave one after the other. -/
theorem run_singly (s : Store) (how : AppendSettings) (calls : List Update) :
    s.run (singly how calls) =
      calls.foldl (fun s call => (s.appendTo how call.1 call.2).store) s := by
  rw [run, singly, List.foldl_map]
  simp only [perform_append]

theorem answers_singly_cons (s : Store) (how : AppendSettings) (call : Update)
    (calls : List Update) :
    s.answers (singly how (call :: calls)) =
      (s.appendTo how call.1 call.2).result ::
        (s.appendTo how call.1 call.2).store.answers (singly how calls) := by
  rw [singly, List.map_cons, answers, appends, result_append, perform_append]
  rfl

/-- Each of the appends to different issues answers as it would without the others. -/
theorem answers_singly {calls : List Update} (hids : (calls.map Prod.fst).Nodup) (s : Store) :
    s.answers (singly how calls) = calls.map fun call => (s.appendTo how call.1 call.2).result := by
  induction calls generalizing s with
  | nil => rfl
  | cons call calls ih =>
    obtain ⟨hnew, hids⟩ := List.nodup_cons.mp hids
    rw [answers_singly_cons, ih hids, List.map_cons]
    -- the first append is to an issue that none of the others is for
    refine congrArg (_ :: ·) (List.map_congr_left fun other hother => ?_)
    refine result_appendTo_appendTo (fun heq => hnew ?_) _ _
    exact heq ▸ List.mem_map_of_mem (f := Prod.fst) hother

/-- The order of appends to different issues does not matter to the store. -/
theorem run_perm {calls calls' : List Update} (h : calls.Perm calls')
    (hids : (calls.map Prod.fst).Nodup) :
    s.run (singly how calls) = s.run (singly how calls') := by
  rw [run_singly, run_singly]
  refine h.foldl_eq' (fun a ha b hb s => ?_) s
  by_cases heq : a.1 = b.1
  · rw [List.inj_on_of_nodup_map hids ha hb heq]
  · exact store_appendTo_comm heq a.2 b.2

/-! ## Batches -/

/-- An append that was kept: it added something, or left something out. -/
def wrote : Except StoreError (Option IssueAppend) → Bool
  | .ok (some (.applied r)) =>
    match r.outcome with
    | .appended | .truncated _ => true
    | .unchanged | .saturated | .oversized => false
  | _ => false

theorem any_changed (r : Option IssueAppend) : r.any IssueAppend.changed = wrote (.ok r) := by
  rcases r with _ | r | -
  · rfl
  · rw [Option.any_some, IssueAppend.changed, wrote]
    cases r.outcome <;> rfl
  · rfl

/-- If no append fails, those that were kept are counted. -/
theorem foldlM_countWritten {as : List (Except StoreError (Option IssueAppend))}
    (h : ∀ a ∈ as, ∃ r, a = .ok r) (written : Nat) :
    as.foldlM countWritten written = .ok (written + as.countP wrote) := by
  induction as generalizing written with
  | nil => rfl
  | cons a as ih =>
    obtain ⟨⟨r, rfl⟩, hok⟩ := List.forall_mem_cons.mp h
    have hstep : countWritten written (.ok r) = .ok (written + if wrote (.ok r) then 1 else 0) := by
      rw [← any_changed]
      rfl
    rw [List.foldlM_cons, hstep, List.countP_cons, Nat.add_comm (as.countP wrote),
      ← Nat.add_assoc]
    exact ih hok _

/-- An append fails only if the number of the issue is too large. An issue that does not exist or
has no readable vector makes for an answer, and not for a failure. -/
theorem exists_result_appendTo (hid : id ≤ maxId) (s : Store) (how : AppendSettings)
    (text : List Char) : ∃ r, (s.appendTo how id text).result = .ok r := by
  cases stored s hid with
  | missing hissue => exact ⟨none, by rw [appendTo_of_missing hid hissue]⟩
  | unreadable i e hissue hparse =>
    exact ⟨some .unreadable, by rw [appendTo_of_unreadable hid hissue hparse]⟩
  | readable i v hissue hread => exact ⟨_, (vector?_appendTo hread how text).1⟩

/-- As long as no append fails, a batch appends one by one. -/
theorem groupAppends_eq_answers {gs : List (Nat × List (List Char))}
    (hids : ∀ g ∈ gs, g.1 ≤ maxId) (s : Store) :
    groupAppends how gs s = s.answers (singly how (gs.map fun g => (g.1, joinTexts g.2))) := by
  induction gs generalizing s with
  | nil => rfl
  | cons g gs ih =>
    obtain ⟨id, texts⟩ := g
    obtain ⟨hid, hids⟩ := List.forall_mem_cons.mp hids
    obtain ⟨r, hr⟩ := exists_result_appendTo hid s how (joinTexts texts)
    rw [List.map_cons, answers_singly_cons, groupAppends]
    simp only [hr, ih hids]

/-- A batch leaves the store that single appends of the joined texts leave. -/
theorem afterGroups_eq_run (how : AppendSettings) (gs : List (Nat × List (List Char))) (s : Store) :
    afterGroups how gs s = s.run (singly how (gs.map fun g => (g.1, joinTexts g.2))) := by
  rw [run_singly, List.foldl_map]
  rfl

/-- The texts of some issues, joined. -/
def joined (ids : List Nat) (us : List Update) : List Update :=
  ids.map fun id => (id, joinTexts (textsOf id us))

theorem nodup_ids_joined {ids : List Nat} (hids : ids.Nodup) (us : List Update) :
    ((joined ids us).map Prod.fst).Nodup := by
  have hmap : (joined ids us).map Prod.fst = ids := by
    rw [joined, List.map_map]
    exact List.map_id ids
  rw [hmap]
  exact hids

/-- Appends to different issues do not get in the way of each other, so each gives what it would
have given by itself. -/
theorem answers_joined {ids : List Nat} (hids : ids.Nodup) (s : Store) (how : AppendSettings)
    (us : List Update) :
    s.answers (singly how (joined ids us)) =
      ids.map fun id => (s.appendTo how id (joinTexts (textsOf id us))).result := by
  rw [answers_singly (nodup_ids_joined hids us), joined, List.map_map]
  rfl

theorem calls_eq_joined (us : List Update) :
    ((groups us).map fun g => (g.1, joinTexts g.2)) = joined (issueIds us) us := by
  rw [groups_eq, List.map_map]
  rfl

/-- A batch whose issues have numbers of rows appends their joined texts one by one, and counts the
appends that were written. No append can fail then, so nothing has to be undone. -/
theorem appendBatch_eq (hids : ∀ u ∈ us, u.1 ≤ maxId) (s : Store) (how : AppendSettings) :
    (s.appendBatch how us).store = s.run (singly how (joined (issueIds us) us)) ∧
    (s.appendBatch how us).result =
      .ok ((s.answers (singly how (joined (issueIds us) us))).countP wrote) := by
  have hgroups : ∀ g ∈ groups us, g.1 ≤ maxId := by
    intro g hg
    obtain ⟨u, hu, hid⟩ := List.mem_map.mp (mem_groups.mp hg).1
    exact hid ▸ hids u hu
  have hresult : (s.appendBatch how us).result =
      .ok ((s.answers (singly how (joined (issueIds us) us))).countP wrote) := by
    rw [result_appendBatch, appends, groupAppends_eq_answers hgroups, calls_eq_joined]
    -- no append fails, so all are counted
    refine (foldlM_countWritten (fun a ha => ?_) 0).trans ?_
    · rw [answers_joined (nodup_issueIds us), List.mem_map] at ha
      obtain ⟨id, hid, rfl⟩ := ha
      obtain ⟨u, hu, rfl⟩ := List.mem_map.mp (mem_issueIds.mp hid)
      exact exists_result_appendTo (hids u hu) s how _
    · rw [Nat.zero_add]
  refine ⟨?_, hresult⟩
  rw [store_appendBatch, hresult]
  exact (afterGroups_eq_run how _ s).trans (by rw [calls_eq_joined])

/-- **A batch is single appends.** Whatever texts are stored, a batch for issues that have numbers of
rows leaves the store that single appends leave, one for each of its issues, in any order of these,
with its texts joined by blanks in the order of the batch; and it answers how many of the single
appends added something or left something out. So another batch in which each issue has the same
texts in the same order leaves the same store and answers the same. -/
theorem batch_eq_single_appends (s : Store) (how : AppendSettings) (us : List Update)
    (hids : ∀ u ∈ us, u.1 ≤ maxId) :
    (∀ ids : List Nat, ids.Nodup → (∀ id, id ∈ ids ↔ id ∈ us.map Prod.fst) →
      (s.appendBatch how us).store = s.run (singly how (joined ids us)) ∧
      (s.appendBatch how us).result =
        .ok ((s.answers (singly how (joined ids us))).countP wrote)) ∧
    ∀ us', (∀ id, textsOf id us' = textsOf id us) →
      (s.appendBatch how us').store = (s.appendBatch how us).store ∧
      (s.appendBatch how us').result = (s.appendBatch how us).result := by
  refine ⟨fun ids hnodup hmem => ?_, fun us' htexts => ?_⟩
  · -- the order of the issues is one of those in which the batch takes them
    have hperm : (issueIds us).Perm ids := by
      refine (List.perm_ext_iff_of_nodup (nodup_issueIds us) hnodup).mpr fun id => ?_
      rw [mem_issueIds, hmem]
    have hcalls : (joined (issueIds us) us).Perm (joined ids us) := hperm.map _
    obtain ⟨hstore, hresult⟩ := appendBatch_eq hids s how
    refine ⟨hstore.trans ?_, hresult.trans ?_⟩
    · exact run_perm hcalls (nodup_ids_joined (nodup_issueIds us) us)
    · rw [answers_joined (nodup_issueIds us), answers_joined hnodup, (hperm.map _).countP_eq]
  · rw [appendBatch, groups_congr htexts]
    exact ⟨rfl, rfl⟩

/-- Texts for the two issues of the store with leftovers, and for one that does not exist. -/
def mixedUpdates : List Update :=
  [(3, "gone".toList), (1, "cache".toList), (2, "lost".toList), (1, "miss".toList)]

/-- The same texts in another order, though not for any one issue. -/
def mixedReordered : List Update :=
  [(1, "cache".toList), (1, "miss".toList), (2, "lost".toList), (3, "gone".toList)]

theorem textsOf_mixedReordered (id : Nat) :
    textsOf id mixedReordered = textsOf id mixedUpdates := by
  by_cases h1 : 1 = id
  · subst h1
    rfl
  · by_cases h2 : 2 = id
    · subst h2
      rfl
    · simp [textsOf, mixedReordered, mixedUpdates, List.filter_cons, h1, h2]

/-- The vector of the texts for the first issue. -/
def cacheMiss : SearchVector := ⟨[⟨"cache", [⟨1, .d⟩]⟩, ⟨"miss", [⟨2, .d⟩]⟩]⟩

theorem wellFormed_cacheMiss : cacheMiss.WellFormed := by
  decide

theorem incoming_cacheMiss :
    SearchVector.incoming "cache miss".toList Configuration.simple.profile .standard = cacheMiss :=
  Profile.toVector_of_occurrences wellFormed_cacheMiss (by decide)

/-- The words stand behind those that the issue has. -/
theorem combined_tidy :
    SearchVector.tidy.combined "cache miss".toList three.profile three.limits =
      ⟨[⟨"bare", [⟨1, .d⟩, ⟨3, .a⟩]⟩, ⟨"cache", [⟨4, .d⟩]⟩, ⟨"it's", []⟩,
        ⟨"miss", [⟨5, .d⟩]⟩]⟩ := by
  rw [SearchVector.combined, three, incoming_cacheMiss,
    show IndexLimits.standard.truncation = .lexical from rfl, SearchVector.follow]
  simp [SearchVector.concat, gather, settle, firstAtEachPlace, SearchVector.tidy, cacheMiss,
    Entry.before, Entry.latestPlace, Entry.latest?, Position.shift, Position.ofPlace,
    SearchVector.maxPosition, maxPlace, maxPositions]

/-- One of three single appends is written. -/
theorem countP_answers_mixedUpdates :
    (leftovers.answers (singly three (joined [2, 1, 3] mixedUpdates))).countP wrote = 1 := by
  have hbroken : (leftovers.appendTo three 2 "lost".toList).result = .ok (some .unreadable) := by
    have hissue : leftovers.issue? 2 = some ⟨2, 1, "Broken", "\x27unterminated"⟩ := rfl
    rw [appendTo_of_unreadable (by decide) hissue parse_broken]
  have hloose := (vector?_appendTo vector?_leftovers_loose three "cache miss".toList).1
  have hmissing : (leftovers.appendTo three 3 "gone".toList).result = .ok none := rfl
  have houtcome : (SearchVector.tidy.append "cache miss".toList three.maxLexemes three.profile
      three.limits).outcome = .truncated 1 := by
    rw [SearchVector.append_eq, SearchVector.evicted, SearchVector.kept, combined_tidy]
    decide
  have hcalls : joined [2, 1, 3] mixedUpdates =
      [(2, "lost".toList), (1, "cache miss".toList), (3, "gone".toList)] := by decide
  rw [hcalls, answers_singly (by decide)]
  simp only [List.map_cons, List.map_nil, hbroken, hloose, hmissing, List.countP_cons,
    List.countP_nil, wrote, houtcome]
  rfl

/-- A batch with an issue whose text is no search vector and one that does not exist, in two
orders. -/
theorem batch_eq_single_appends_mixed :
    (∀ u ∈ mixedUpdates, u.1 ≤ maxId) ∧
    (leftovers.appendBatch three mixedUpdates).store =
      leftovers.run (singly three (joined [2, 1, 3] mixedUpdates)) ∧
    (leftovers.appendBatch three mixedUpdates).result = .ok 1 ∧
    (leftovers.appendBatch three mixedReordered).store =
      (leftovers.appendBatch three mixedUpdates).store ∧
    (leftovers.appendBatch three mixedReordered).result = .ok 1 := by
  have hids : ∀ u ∈ mixedUpdates, u.1 ≤ maxId := by decide
  obtain ⟨hsingle, hsame⟩ := batch_eq_single_appends leftovers three mixedUpdates hids
  obtain ⟨hstore, hresult⟩ := hsingle [2, 1, 3] (by decide) (by simp [mixedUpdates]; omega)
  obtain ⟨hstore', hresult'⟩ := hsame mixedReordered textsOf_mixedReordered
  rw [countP_answers_mixedUpdates] at hresult
  exact ⟨hids, hstore, hresult, hstore', hresult'.trans hresult⟩

end EventIntake.Store
