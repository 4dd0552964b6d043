import EventIntake.Proofs.Store.Appends

/-!
# What an append leaves

An append leaves the store but for the search vector of its issue (`sameButVectors_append`). The
vector that it answers with is the one that is read afterwards, and where it does not answer with a
vector there was none to be read, and the store is what it was (`read_after_append`).
-/

namespace EventIntake.Store

variable {s t u : Store} {how : AppendSettings} {id : Nat} {text : List Char}

/-! ## Stores that differ in vectors -/

/-- Two stores do not differ but for the search vectors of some issues. -/
structure SameButVectors (ids : Nat → Prop) (s t : Store) : Prop where
  organizations : t.organizations = s.organizations
  projects : t.projects = s.projects
  keys : t.keys = s.keys
  /-- the issues are the same in the same order, with their projects and titles -/
  issues : ∃ vector : Issue → String, (∀ i ∈ s.issues, ¬ ids i.id → vector i = i.vector) ∧
    t.issues = s.issues.map fun i => { i with vector := vector i }

namespace SameButVectors

variable {ids ids' : Nat → Prop}

theorem refl (ids : Nat → Prop) (s : Store) : SameButVectors ids s s :=
  ⟨rfl, rfl, rfl, Issue.vector, fun _ _ _ => rfl, (List.map_id s.issues).symm⟩

theorem trans (h : SameButVectors ids s t) (h' : SameButVectors ids t u) :
    SameButVectors ids s u := by
  obtain ⟨vector, hsame, hissues⟩ := h.issues
  obtain ⟨vector', hsame', hissues'⟩ := h'.issues
  refine ⟨h'.organizations.trans h.organizations, h'.projects.trans h.projects,
    h'.keys.trans h.keys, fun i => vector' { i with vector := vector i }, fun i hi hid => ?_, ?_⟩
  · have hmem : { i with vector := vector i } ∈ t.issues := by
      rw [hissues]
      exact List.mem_map_of_mem hi
    exact (hsame' _ hmem hid).trans (hsame i hi hid)
  · rw [hissues', hissues, List.map_map]
    rfl

theorem mono (h : SameButVectors ids s t) (hids : ∀ id, ids id → ids' id) :
    SameButVectors ids' s t := by
  obtain ⟨vector, hsame, hissues⟩ := h.issues
  exact ⟨h.organizations, h.projects, h.keys, vector,
    fun i hi hid => hsame i hi fun hid' => hid (hids i.id hid'), hissues⟩

end SameButVectors

/-- Writing the vector of an issue leaves every other issue, and all of this one but its vector. -/
theorem sameButVectors_writeVector (s : Store) (id : Nat) (vector : String) :
    SameButVectors (· = id) s (s.writeVector id vector) := by
  refine ⟨rfl, rfl, rfl, fun i => if i.id = id then vector else i.vector,
    fun i _ hid => if_neg hid, ?_⟩
  refine List.map_congr_left fun i _ => ?_
  simp only
  split <;> rfl

theorem sameButVectors_appendTo (s : Store) (how : AppendSettings) (id : Nat) (text : List Char) :
    SameButVectors (· = id) s (s.appendTo how id text).store := by
  rcases store_appendTo s how id text with hstore | ⟨vector, hstore⟩ <;> rw [hstore]
  · exact .refl _ s
  · exact sameButVectors_writeVector s id vector

/-- An append leaves the store but for the search vector of its issue, whatever the answer is. -/
theorem sameButVectors_append (s : Store) (how : AppendSettings) (id : Nat) (text : List Char) :
    SameButVectors (· = id) s (s.append how id text).store := by
  rw [store_append]
  exact sameButVectors_appendTo s how id text

/-- A batch leaves the store but for the search vectors of its issues. -/
theorem sameButVectors_afterGroups (how : AppendSettings) (gs : List (Nat × List (List Char)))
    (s : Store) : SameButVectors (· ∈ gs.map Prod.fst) s (afterGroups how gs s) := by
  induction gs generalizing s with
  | nil => exact .refl _ s
  | cons g gs ih =>
    have hfirst := sameButVectors_appendTo s how g.1 (joinTexts g.2)
    refine (hfirst.mono fun id hid => ?_).trans ((ih _).mono fun id hid => ?_)
    · exact List.mem_cons.mpr (Or.inl hid)
    · exact List.mem_cons_of_mem _ hid

/-! ## What there is to be read -/

theorem vectorText?_of_le (hid : id ≤ maxId) :
    s.vectorText? id = .ok ((s.issue? id).map Issue.vector) :=
  if_neg (Nat.not_lt.mpr hid)

/-- An issue whose text says no vector is answered with the number of the issue and the reason. -/
theorem vector?_of_unreadable (hid : id ≤ maxId) {i : Issue} {e : VectorError}
    (hissue : s.issue? id = some i) (hparse : SearchVector.parse i.vector = .error e) :
    s.vector? id = .error (.invalidVector id e) := by
  rw [vector?, vectorText?_of_le hid, hissue]
  simp only [Option.map_some, bind, Except.bind, hparse]
  rfl

/-- What is stored for an issue. -/
inductive Stored (s : Store) (id : Nat) : Prop
  /-- there is no such issue -/
  | missing (hissue : s.issue? id = none) (hread : s.vector? id = .ok none)
  /-- its text is no search vector -/
  | unreadable (i : Issue) (e : VectorError) (hissue : s.issue? id = some i)
    (hparse : SearchVector.parse i.vector = .error e)
    (hread : s.vector? id = .error (.invalidVector id e))
  /-- its text is a search vector -/
  | readable (i : Issue) (v : SearchVector) (hissue : s.issue? id = some i)
    (hread : s.vector? id = .ok (some v))

/-- There are three cases: no issue, an issue with a text that says no vector, and one with a vector
that can be read. -/
theorem stored (s : Store) (hid : id ≤ maxId) : Stored s id := by
  have htext : s.vectorText? id = .ok ((s.issue? id).map Issue.vector) := vectorText?_of_le hid
  rcases hissue : s.issue? id with _ | i
  · refine .missing hissue ?_
    rw [vector?, htext, hissue]
    rfl
  · rw [hissue] at htext
    rcases hparse : SearchVector.parse i.vector with e | v
    · exact .unreadable i e hissue hparse (vector?_of_unreadable hid hissue hparse)
    · exact .readable i v hissue (vector?_eq_ok_some_iff.mpr ⟨_, htext, hparse⟩)

/-- An append to an issue that does not exist. -/
theorem appendTo_of_missing (hid : id ≤ maxId) (hissue : s.issue? id = none) :
    s.appendTo how id text = ⟨.ok none, s, []⟩ := by
  rw [appendTo, vectorText?_of_le hid, hissue]
  rfl

/-- An append to an issue whose text is no search vector. -/
theorem appendTo_of_unreadable (hid : id ≤ maxId) {i : Issue} {e : VectorError}
    (hissue : s.issue? id = some i) (hparse : SearchVector.parse i.vector = .error e) :
    s.appendTo how id text = ⟨.ok (some .unreadable), s, [.unreadableVector]⟩ := by
  rw [appendTo, vectorText?_of_le hid, hissue]
  simp only [Option.map_some, hparse]

/-- A number that is too large for a row cannot be asked for. -/
theorem vector?_of_too_large (hid : maxId < id) : s.vector? id = .error .idTooLarge := by
  rw [vector?, vectorText?, if_pos hid]
  rfl

/-- Nothing can be appended to a number that is too large for a row. -/
theorem appendTo_of_too_large (hid : maxId < id) :
    s.appendTo how id text = ⟨.error .idTooLarge, s, []⟩ := by
  rw [appendTo, vectorText?, if_pos hid]

/-! ## Reading after an append -/

/-- **Reading after an append.** For every issue number that fits a row, whatever texts are stored:
an append never fails; the vector that it answers with is read afterwards; it answers that the text
is no search vector exactly if reading before gives that error, and that there is no issue exactly if
there is none, and then the store is what it was; and apart from the vector of the issue it leaves
everything in any case. -/
theorem read_after_append (s : Store) (how : AppendSettings) (id : Nat) (text : List Char)
    (hid : id ≤ maxId) :
    (∃ answer, (s.append how id text).result = .ok answer) ∧
    (∀ r, (s.append how id text).result = .ok (some (.applied r)) →
      (s.append how id text).store.vector? id = .ok (some r.vector)) ∧
    ((s.append how id text).result = .ok (some .unreadable) ↔
      ∃ e, s.vector? id = .error (.invalidVector id e)) ∧
    ((s.append how id text).result = .ok none ↔ s.issue? id = none) ∧
    ((s.append how id text).result = .ok (some .unreadable) ∨
      (s.append how id text).result = .ok none → (s.append how id text).store = s) ∧
    SameButVectors (· = id) s (s.append how id text).store := by
  have hframe := sameButVectors_append s how id text
  rw [store_append] at hframe
  rw [result_append, store_append]
  cases stored s hid with
  | missing hissue hread =>
    rw [appendTo_of_missing hid hissue, hissue, hread]
    exact ⟨⟨none, rfl⟩, nofun, ⟨nofun, nofun⟩, ⟨fun _ => rfl, fun _ => rfl⟩, fun _ => rfl,
      .refl _ s⟩
  | unreadable i e hissue hparse hread =>
    rw [appendTo_of_unreadable hid hissue hparse, hissue, hread]
    exact ⟨⟨_, rfl⟩, nofun, ⟨fun _ => ⟨e, rfl⟩, fun _ => rfl⟩, ⟨nofun, nofun⟩, fun _ => rfl,
      .refl _ s⟩
  | readable i v hissue hread =>
    obtain ⟨hresult, hafter⟩ := vector?_appendTo hread how text
    rw [hresult, hissue, hread]
    refine ⟨⟨_, rfl⟩, fun r hr => ?_, ⟨nofun, nofun⟩, ⟨nofun, nofun⟩, ?_, hframe⟩
    · cases hr
      exact hafter
    · rintro (h | h) <;> cases h

/-- Two issues with texts that no append has written: one is a search vector, though not in normal
form, and the other is none. -/
def leftovers : Store :=
  ⟨[], [], [], [⟨1, 1, "Loose", SearchVector.loose⟩, ⟨2, 1, "Broken", "\x27unterminated"⟩]⟩

/-- At most three lexemes of plain words. -/
def three : AppendSettings := ⟨3, Configuration.simple.profile, .standard⟩

theorem vector?_leftovers_loose : leftovers.vector? 1 = .ok (some SearchVector.tidy) :=
  vector?_eq_ok_some_iff.mpr ⟨SearchVector.loose, rfl, SearchVector.parse_loose⟩

theorem parse_broken : SearchVector.parse "\x27unterminated" = .error .unterminatedQuote := by cbv

theorem vector?_leftovers_broken :
    leftovers.vector? 2 = .error (.invalidVector 2 .unterminatedQuote) :=
  vector?_of_unreadable (by decide) rfl parse_broken

/-- Reading after an append to an issue with a text that is not in normal form, to one whose text is
no search vector, and to one that does not exist. -/
theorem read_after_append_leftovers :
    1 ≤ maxId ∧ 2 ≤ maxId ∧ 3 ≤ maxId ∧
    (∃ r, (leftovers.append three 1 "miss miss".toList).result = .ok (some (.applied r)) ∧
      (leftovers.append three 1 "miss miss".toList).store.vector? 1 = .ok (some r.vector)) ∧
    (leftovers.append three 2 "miss".toList).result = .ok (some .unreadable) ∧
    (leftovers.append three 3 "miss".toList).result = .ok none ∧
    (leftovers.append three 3 "miss".toList).store = leftovers := by
  have h1 : 1 ≤ maxId := by decide
  have h2 : 2 ≤ maxId := by decide
  have h3 : 3 ≤ maxId := by decide
  obtain ⟨⟨answer, hanswer⟩, hread, hunreadable, hmissing, -, -⟩ :=
    read_after_append leftovers three 1 "miss miss".toList h1
  obtain ⟨-, -, hbroken, -, -, -⟩ := read_after_append leftovers three 2 "miss".toList h2
  obtain ⟨-, -, -, hnone, hkept, -⟩ := read_after_append leftovers three 3 "miss".toList h3
  refine ⟨h1, h2, h3, ?_, hbroken.mpr ⟨_, vector?_leftovers_broken⟩, hnone.mpr rfl,
    hkept (Or.inr (hnone.mpr rfl))⟩
  rcases answer with _ | r | -
  · exact absurd (hmissing.mp hanswer) nofun
  · exact ⟨r, hanswer, hread r hanswer⟩
  · obtain ⟨e, he⟩ := hunreadable.mp hanswer
    exact nomatch he.symm.trans vector?_leftovers_loose

end EventIntake.Store
