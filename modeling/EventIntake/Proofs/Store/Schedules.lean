import EventIntake.Proofs.Maintenance.FirstLexemes
import EventIntake.Proofs.Store.Limits

/-!
# Schedules of updates

A `Schedule` of some updates divides them into appends and batches and puts these in an order. With
lexical truncation all schedules of the same updates leave an issue the same lexemes, the first in
byte order of all its texts (`schedule_lexemes`).

The proof follows the appends one by one. After each of them the issues have the first lexemes of the
texts so far (`Reflects`), where a batch counts as appends of joined texts; these have the lexemes of
the texts that they were joined from.
-/

namespace EventIntake.Store

variable {s : Store} {how : AppendSettings} {id : Nat} {us : List Update} {x : String}

/-! ## Texts of an issue -/

/-- The texts of an issue. -/
def textsOf (id : Nat) (us : List Update) : List (List Char) :=
  (us.filter (·.1 = id)).map Prod.snd

/-- The lexemes of the texts of an issue. -/
def lexemesOf (p : Profile) (id : Nat) (us : List Update) : List String :=
  (textsOf id us).flatMap fun text => (p.toVector text).lexemes

theorem mem_textsOf {text : List Char} : text ∈ textsOf id us ↔ (id, text) ∈ us := by
  simp [textsOf]

theorem mem_lexemesOf {p : Profile} :
    x ∈ lexemesOf p id us ↔ ∃ text, (id, text) ∈ us ∧ x ∈ (p.toVector text).lexemes := by
  simp [lexemesOf, mem_textsOf]

theorem mem_groups {g : Nat × List (List Char)} :
    g ∈ groups us ↔ g.1 ∈ us.map Prod.fst ∧ g.2 = textsOf g.1 us := by
  rw [groups, List.mem_map]
  constructor
  · rintro ⟨id, hid, rfl⟩
    exact ⟨List.mem_mergeSort.mp (mem_eraseReps.mp hid), rfl⟩
  · rintro ⟨hid, htexts⟩
    exact ⟨g.1, mem_eraseReps.mpr (List.mem_mergeSort.mpr hid), Prod.ext rfl htexts.symm⟩

/-! ## Operations as appends -/

/-- The updates of an operation that appends. -/
def Operation.updates : Operation → List Update
  | .append _ id text => [(id, text)]
  | .appendBatch _ updates => updates
  | _ => []

/-- The appends of an operation, each with the text that it gets. -/
def Operation.calls : Operation → List Update
  | .append _ id text => [(id, text)]
  | .appendBatch _ updates => (groups updates).map fun g => (g.1, joinTexts g.2)
  | _ => []

/-- A batch comes down to one append for each issue that is named, with all of its texts joined. -/
theorem mem_calls_appendBatch {text : List Char} :
    (id, text) ∈ (Operation.appendBatch how us).calls ↔
      id ∈ us.map Prod.fst ∧ text = joinTexts (textsOf id us) := by
  rw [Operation.calls, List.mem_map]
  constructor
  · rintro ⟨g, hg, hcall⟩
    obtain ⟨hid, htexts⟩ := mem_groups.mp hg
    obtain ⟨rfl, rfl⟩ := Prod.mk.inj hcall
    exact ⟨hid, congrArg joinTexts htexts⟩
  · rintro ⟨hid, rfl⟩
    exact ⟨(id, textsOf id us), mem_groups.mpr ⟨hid, rfl⟩, rfl⟩

/-- A joined text has the lexemes of its texts. -/
theorem mem_lexemes_joinTexts {p : Profile} {texts : List (List Char)} :
    x ∈ (p.toVector (joinTexts texts)).lexemes ↔
      ∃ text ∈ texts, x ∈ (p.toVector text).lexemes := by
  simp only [Profile.mem_lexemes_toVector, joinTexts, Profile.stream_intercalate, List.mem_flatMap]

/-- The appends of an operation have the lexemes of its updates. -/
theorem mem_lexemesOf_calls (op : Operation) {p : Profile} :
    x ∈ lexemesOf p id op.calls ↔ x ∈ lexemesOf p id op.updates := by
  cases op with
  | appendBatch how us =>
    rw [mem_lexemesOf, mem_lexemesOf]
    constructor
    · rintro ⟨text, hcall, hx⟩
      obtain ⟨-, rfl⟩ := mem_calls_appendBatch.mp hcall
      obtain ⟨part, hpart, hx⟩ := mem_lexemes_joinTexts.mp hx
      exact ⟨part, mem_textsOf.mp hpart, hx⟩
    · rintro ⟨part, hpart, hx⟩
      have hid : id ∈ us.map Prod.fst := List.mem_map_of_mem (f := Prod.fst) hpart
      refine ⟨_, mem_calls_appendBatch.mpr ⟨hid, rfl⟩, ?_⟩
      exact mem_lexemes_joinTexts.mpr ⟨part, mem_textsOf.mpr hpart, hx⟩
  | _ => rfl

/-! ## Schedules -/

/-- The append was refused neither for the bytes that the vector takes nor for those that it would
take. -/
def Accepted (a : Except StoreError (Option IssueAppend)) : Prop :=
  ∀ r, a = .ok (some (.applied r)) → r.outcome ≠ .saturated ∧ r.outcome ≠ .oversized

/-- Operations that, one after another from a store, append some updates in any order, alone or in
batches. No text is cut, and no append is refused. -/
structure Schedule (s : Store) (how : AppendSettings) (us : List Update) (ops : List Operation) :
    Prop where
  /-- all operations append, in the same way -/
  settings : ∀ op ∈ ops, op.settings? = some how
  /-- together they have the updates -/
  updates : (ops.flatMap Operation.updates).Perm us
  /-- every text is read as a whole, also if it is joined from several -/
  whole : ∀ op ∈ ops, ∀ call ∈ op.calls, Text.Utf8.size call.2 ≤ how.limits.maxInputBytes
  /-- no append is refused -/
  accepted : ∀ before op after, ops = before ++ op :: after →
    ∀ a ∈ (s.run before).appends op, Accepted a

/-- Where there is room for as many lexemes as are kept, no append is refused. -/
theorem Answer.accepted {a : Except StoreError (Option IssueAppend)} (h : Answer how a)
    (hroom : 8 + maxEntryBytes * how.maxLexemes ≤ how.limits.maxVectorBytes) : Accepted a := by
  intro r hr
  subst hr
  cases h with
  | applied hwf _ hbytes h => exact h.accepted_of_room hwf hbytes hroom

/-- Where the limit of bytes leaves room for as many lexemes as are kept, no append is refused. -/
theorem accepted_of_room (h : VectorsWithin how.maxLexemes how.limits.maxVectorBytes s)
    (hroom : 8 + maxEntryBytes * how.maxLexemes ≤ how.limits.maxVectorBytes)
    {ops : List Operation} (hhow : ∀ op ∈ ops, op.settings? = some how) :
    ∀ before op after, ops = before ++ op :: after →
      ∀ a ∈ (s.run before).appends op, Accepted a := by
  rintro before op after rfl a ha
  have hmin : 8 ≤ how.limits.maxVectorBytes := Nat.le_trans (Nat.le_add_right _ _) hroom
  have hshared : ∀ op' ∈ before ++ op :: after, ∀ how', op'.settings? = some how' →
      how'.maxLexemes = how.maxLexemes ∧
        how'.limits.maxVectorBytes = how.limits.maxVectorBytes := by
    intro op' hop' how' hhow'
    obtain rfl := Option.some.inj ((hhow op' hop').symm.trans hhow')
    exact ⟨rfl, rfl⟩
  have hbefore := h.run hmin fun op' hop' => hshared op' (List.mem_append_left _ hop')
  have hop : op ∈ before ++ op :: after := List.mem_append_right _ List.mem_cons_self
  obtain ⟨how', hhow', hanswer⟩ := (hbefore.perform hmin (hshared op hop)).2 a ha
  obtain rfl := Option.some.inj ((hhow op hop).symm.trans hhow')
  exact hanswer.accepted hroom

/-! ## One append after another -/

/-- The issues have the first lexemes of their texts. -/
def Reflects (how : AppendSettings) (ids : Nat → Prop) (s : Store) (us : List Update) : Prop :=
  ∀ id, ids id → ∃ v, s.vector? id = .ok (some v) ∧
    v.lexemes = firstLexemes how.maxLexemes (lexemesOf how.profile id us)

variable {ids : Nat → Prop}

theorem lexemesOf_append (p : Profile) (id : Nat) (us us' : List Update) :
    lexemesOf p id (us ++ us') = lexemesOf p id us ++ lexemesOf p id us' := by
  rw [lexemesOf, textsOf, List.filter_append, List.map_append, List.flatMap_append]
  rfl

/-- Only which lexemes the updates have for each issue matters. -/
theorem Reflects.congr {us' : List Update} (h : Reflects how ids s us)
    (hus : ∀ id x, x ∈ lexemesOf how.profile id us ↔ x ∈ lexemesOf how.profile id us') :
    Reflects how ids s us' := by
  intro id hid
  obtain ⟨v, hv, hlexemes⟩ := h id hid
  exact ⟨v, hv, hlexemes.trans (firstLexemes_congr (hus id))⟩

/-- An append keeps the first lexemes of an issue, and of the others. The lexemes that were left out
before are not needed, since the first of all are among the first of before and the new ones. -/
theorem Reflects.appendTo (h : Reflects how ids s us) (hlex : how.limits.truncation = .lexical)
    {target : Nat} {text : List Char} (hid : ids target)
    (hwhole : Text.Utf8.size text ≤ how.limits.maxInputBytes)
    (haccepted : Accepted (s.appendTo how target text).result) :
    Reflects how ids (s.appendTo how target text).store (us ++ [(target, text)]) := by
  intro id hids
  obtain ⟨v, hv, hlexemes⟩ := h id hids
  rw [lexemesOf_append]
  by_cases hne : id = target
  · -- the first lexemes of the issue with the text, after the first of its texts before
    subst hne
    obtain ⟨hresult, hstore⟩ := vector?_appendTo hv how text
    obtain ⟨hsat, hover⟩ := haccepted _ hresult
    obtain ⟨stored, -, hparse⟩ := vector?_eq_ok_some_iff.mp hv
    have hwf : v.WellFormed := SearchVector.wellFormed_of_parse hparse
    have hcase := SearchVector.appending v text how.maxLexemes how.profile how.limits
    have hone : lexemesOf how.profile id [(id, text)] = (how.profile.toVector text).lexemes := by
      simp [lexemesOf, textsOf]
    refine ⟨_, hstore, ?_⟩
    rw [hcase.lexemes_lexical hlex hwf hsat hover, hlexemes, firstLexemes_append, hone,
      SearchVector.incoming_of_size_le hwhole]
  · have hnone : lexemesOf how.profile id [(target, text)] = [] := by
      simp [lexemesOf, textsOf, Ne.symm hne]
    refine ⟨v, (vector?_appendTo_ne hne).trans hv, ?_⟩
    rw [hlexemes, hnone, List.append_nil]

/-- Appends to issues do not fail, and keep the first lexemes of all. -/
theorem Reflects.afterGroups (h : Reflects how ids s us) (hlex : how.limits.truncation = .lexical)
    {gs : List (Nat × List (List Char))} (hids : ∀ g ∈ gs, ids g.1)
    (hwhole : ∀ g ∈ gs, Text.Utf8.size (joinTexts g.2) ≤ how.limits.maxInputBytes)
    (haccepted : ∀ a ∈ groupAppends how gs s, Accepted a) (written : Nat) :
    Reflects how ids (afterGroups how gs s) (us ++ gs.map fun g => (g.1, joinTexts g.2)) ∧
      ∃ k, (groupAppends how gs s).foldlM countWritten written = .ok k := by
  induction gs generalizing s us written with
  | nil =>
    rw [List.map_nil, List.append_nil]
    exact ⟨h, written, rfl⟩
  | cons g gs ih =>
    obtain ⟨target, texts⟩ := g
    obtain ⟨hid, hids⟩ := List.forall_mem_cons.mp hids
    obtain ⟨hfirst, hwhole⟩ := List.forall_mem_cons.mp hwhole
    -- the issue has a vector that can be read, so its append does not end the batch
    obtain ⟨v, hv, -⟩ := h target hid
    obtain ⟨hresult, -⟩ := vector?_appendTo hv how (joinTexts texts)
    rw [groupAppends] at haccepted ⊢
    simp only [hresult] at haccepted ⊢
    obtain ⟨hhead, haccepted⟩ := List.forall_mem_cons.mp haccepted
    have hstep := h.appendTo hlex hid hfirst (hresult ▸ hhead)
    have hrest := ih hstep hids hwhole haccepted
    rw [List.append_assoc] at hrest
    exact ⟨(hrest 0).1, (hrest _).2⟩

/-! ## Operations and runs -/

/-- An operation of a schedule keeps the first lexemes of all issues. -/
theorem Reflects.perform (h : Reflects how ids s us) (hlex : how.limits.truncation = .lexical)
    {op : Operation} (hhow : op.settings? = some how) (hids : ∀ u ∈ op.updates, ids u.1)
    (hwhole : ∀ call ∈ op.calls, Text.Utf8.size call.2 ≤ how.limits.maxInputBytes)
    (haccepted : ∀ a ∈ s.appends op, Accepted a) :
    Reflects how ids (s.perform op).2 (us ++ op.calls) := by
  cases op with
  | append how' target text =>
    obtain rfl : how' = how := Option.some.inj hhow
    have hid : ids target := hids (target, text) List.mem_cons_self
    have hread := hwhole (target, text) List.mem_cons_self
    rw [perform_append]
    refine h.appendTo hlex hid hread ?_
    rw [← result_append]
    exact haccepted _ List.mem_cons_self
  | appendBatch how' updates =>
    obtain rfl : how' = how := Option.some.inj hhow
    have hgroups : ∀ g ∈ groups updates, ids g.1 := by
      intro g hg
      obtain ⟨u, hu, hid⟩ := List.mem_map.mp (mem_groups.mp hg).1
      exact hid ▸ hids u hu
    obtain ⟨hafter, k, hk⟩ := h.afterGroups hlex hgroups
      (fun g hg => hwhole _ (List.mem_map_of_mem hg)) haccepted 0
    have hresult := (result_appendBatch s how' updates).trans hk
    rw [perform_appendBatch, store_appendBatch, hresult]
    exact hafter
  | _ => cases hhow

/-- Operations that append and are not refused keep the first lexemes of all issues. -/
theorem Reflects.run (h : Reflects how ids s us) (hlex : how.limits.truncation = .lexical)
    {ops : List Operation} (hhow : ∀ op ∈ ops, op.settings? = some how)
    (hids : ∀ op ∈ ops, ∀ u ∈ op.updates, ids u.1)
    (hwhole : ∀ op ∈ ops, ∀ call ∈ op.calls,
      Text.Utf8.size call.2 ≤ how.limits.maxInputBytes)
    (haccepted : ∀ before op after, ops = before ++ op :: after →
      ∀ a ∈ (s.run before).appends op, Accepted a) :
    Reflects how ids (s.run ops) (us ++ ops.flatMap Operation.calls) := by
  induction ops generalizing s us with
  | nil =>
    rw [List.flatMap_nil, List.append_nil]
    exact h
  | cons op ops ih =>
    obtain ⟨hhow, hhows⟩ := List.forall_mem_cons.mp hhow
    obtain ⟨hid, hids⟩ := List.forall_mem_cons.mp hids
    obtain ⟨hfirst, hwhole⟩ := List.forall_mem_cons.mp hwhole
    have hstep := h.perform hlex hhow hid hfirst (haccepted [] op ops rfl)
    rw [List.flatMap_cons, ← List.append_assoc]
    refine ih hstep hhows hids hwhole fun before op' after hops => ?_
    exact haccepted (op :: before) op' after (congrArg (op :: ·) hops)

theorem mem_lexemesOf_flatMap {p : Profile} {ops : List Operation} {f : Operation → List Update} :
    x ∈ lexemesOf p id (ops.flatMap f) ↔ ∃ op ∈ ops, x ∈ lexemesOf p id (f op) := by
  simp only [mem_lexemesOf, List.mem_flatMap]
  constructor
  · rintro ⟨text, ⟨op, hop, htext⟩, hx⟩
    exact ⟨op, hop, text, htext, hx⟩
  · rintro ⟨op, hop, text, htext, hx⟩
    exact ⟨text, ⟨op, hop, htext⟩, hx⟩

/-- After a schedule the issues have the first lexemes of the texts of all updates, in whatever
groups and order these were appended. -/
theorem Schedule.reflects {ops : List Operation} (h : Schedule s how us ops)
    (hlex : how.limits.truncation = .lexical) (hids : ∀ u ∈ us, ids u.1)
    (hstart : Reflects how ids s []) : Reflects how ids (s.run ops) us := by
  have hidops : ∀ op ∈ ops, ∀ u ∈ op.updates, ids u.1 := fun op hop u hu =>
    hids u (h.updates.mem_iff.mp (List.mem_flatMap.mpr ⟨op, hop, hu⟩))
  have hrun := hstart.run hlex h.settings hidops h.whole h.accepted
  refine hrun.congr fun id x => ?_
  rw [List.nil_append, mem_lexemesOf_flatMap]
  simp only [mem_lexemesOf_calls]
  rw [← mem_lexemesOf_flatMap, mem_lexemesOf, mem_lexemesOf]
  simp only [h.updates.mem_iff]

/-- Before any update, an issue with the vector without lexemes reflects that there was none. -/
theorem reflects_empty (s : Store) (how : AppendSettings) :
    Reflects how (fun id => s.vector? id = .ok (some .empty)) s [] := by
  intro id hid
  refine ⟨.empty, hid, ?_⟩
  simp [lexemesOf, textsOf, firstLexemes, inByteOrder, SearchVector.empty, SearchVector.lexemes]

/-- **Schedules agree.** With lexical truncation, a schedule of updates to issues without lexemes
leaves each of these the first lexemes in byte order of all its texts. So any two schedules of the
same updates, alone or in batches and in any order, leave an issue the same lexemes. -/
theorem schedule_lexemes (s : Store) (how : AppendSettings)
    (hlex : how.limits.truncation = .lexical) (us : List Update)
    (hempty : ∀ u ∈ us, s.vector? u.1 = .ok (some .empty)) (ops : List Operation)
    (h : Schedule s how us ops) :
    (∀ id, s.vector? id = .ok (some .empty) →
      ∃ v, (s.run ops).vector? id = .ok (some v) ∧
        v.lexemes = firstLexemes how.maxLexemes (lexemesOf how.profile id us)) ∧
    ∀ ops', Schedule s how us ops' → ∀ id, s.vector? id = .ok (some .empty) →
      ∃ v v', (s.run ops).vector? id = .ok (some v) ∧ (s.run ops').vector? id = .ok (some v') ∧
        v.lexemes = v'.lexemes := by
  have hreflects := h.reflects hlex hempty (reflects_empty s how)
  refine ⟨hreflects, fun ops' h' id hid => ?_⟩
  obtain ⟨v, hv, hlexemes⟩ := hreflects id hid
  obtain ⟨v', hv', hlexemes'⟩ := h'.reflects hlex hempty (reflects_empty s how) id hid
  exact ⟨v, v', hv, hv', hlexemes.trans hlexemes'.symm⟩

/-- Two lexemes of plain words within the usual limits. -/
def plain : AppendSettings := ⟨2, Configuration.simple.profile, .standard⟩

/-- A store with two new issues. -/
def twoIssues : Store :=
  empty.run [.insertOrganization "Acme" true 0 false, .insertProject 1 "backend" true 0 none,
    .createIssue 1 "Timeout", .createIssue 1 "Refused"]

/-- Texts for both of them. -/
def threeUpdates : List Update :=
  [(1, "beta alpha".toList), (2, "gamma".toList), (1, "delta alpha".toList)]

/-- The texts in two batches. -/
def inBatches : List Operation :=
  [.appendBatch plain [(2, "gamma".toList), (1, "delta alpha".toList)],
    .appendBatch plain [(1, "beta alpha".toList)]]

/-- The texts one by one. -/
def oneByOne : List Operation :=
  threeUpdates.map fun u => .append plain u.1 u.2

theorem vectorsWithin_twoIssues : VectorsWithin 2 1040000 twoIssues := by
  refine (vectorsWithin_empty _ _).run (by decide) ?_
  simp [Operation.settings?]

theorem schedule_inBatches : Schedule twoIssues plain threeUpdates inBatches := by
  have hsettings : ∀ op ∈ inBatches, op.settings? = some plain := by
    simp [inBatches, Operation.settings?]
  refine ⟨hsettings, by decide, ?_,
    accepted_of_room vectorsWithin_twoIssues (by decide) hsettings⟩
  rintro op hop ⟨id, text⟩ hcall
  rw [inBatches, List.mem_cons, List.mem_singleton] at hop
  rcases hop with rfl | rfl
  · obtain ⟨hid, rfl⟩ := mem_calls_appendBatch.mp hcall
    rw [List.map_cons, List.map_singleton, List.mem_cons, List.mem_singleton] at hid
    rcases hid with rfl | rfl <;> decide
  · obtain ⟨hid, rfl⟩ := mem_calls_appendBatch.mp hcall
    rw [List.mem_singleton.mp hid]
    decide

theorem schedule_oneByOne : Schedule twoIssues plain threeUpdates oneByOne := by
  have hsettings : ∀ op ∈ oneByOne, op.settings? = some plain := by
    simp [oneByOne, threeUpdates, Operation.settings?]
  refine ⟨hsettings, by decide, ?_,
    accepted_of_room vectorsWithin_twoIssues (by decide) hsettings⟩
  decide

/-- Two schedules of texts for two issues agree: one appends in batches, and the other text by text
in another order. -/
theorem schedule_lexemes_twoIssues :
    plain.limits.truncation = .lexical ∧
    (∀ u ∈ threeUpdates, twoIssues.vector? u.1 = .ok (some .empty)) ∧
    Schedule twoIssues plain threeUpdates inBatches ∧
    Schedule twoIssues plain threeUpdates oneByOne ∧
    ∃ v v', (twoIssues.run inBatches).vector? 1 = .ok (some v) ∧
      (twoIssues.run oneByOne).vector? 1 = .ok (some v') ∧ v.lexemes = v'.lexemes := by
  have hempty : ∀ u ∈ threeUpdates, twoIssues.vector? u.1 = .ok (some .empty) := by
    intro u hu
    refine vector?_eq_ok_some_iff.mpr ⟨"", ?_, parse_empty⟩
    rw [threeUpdates, List.mem_cons, List.mem_cons, List.mem_singleton] at hu
    rcases hu with rfl | rfl | rfl <;> rfl
  refine ⟨rfl, hempty, schedule_inBatches, schedule_oneByOne, ?_⟩
  exact (schedule_lexemes twoIssues plain rfl threeUpdates hempty inBatches
    schedule_inBatches).2 oneByOne schedule_oneByOne 1 (hempty _ List.mem_cons_self)

end EventIntake.Store
