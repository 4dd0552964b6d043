import EventIntake.SearchVector.Basic

/-!
# Entries by lexeme

A vector's entries are looked up by lexeme, and entries in strict byte order are determined by what
their lexemes have (`Ascending.ext`). The two ways in which entries are put together here are read off
through `lookup`: `gather` joins the positions of all entries with a lexeme (`lookup_gather`), and
sorting or merging entries keeps those with a lexeme in their order (`filter_mergeSort`,
`filter_merge`).
-/

namespace EventIntake

/-- The lexemes are in byte order, and none comes twice. -/
abbrev Ascending (es : List Entry) : Prop :=
  es.Pairwise fun e f => e.lexeme < f.lexeme

/-- The lexemes are in byte order. -/
abbrev InOrder (es : List Entry) : Prop :=
  es.Pairwise fun e f => e.lexeme ≤ f.lexeme

/-- The positions of the first entry with a lexeme. -/
def lookup (es : List Entry) (x : String) : Option (List Position) :=
  (es.find? (·.lexeme == x)).map Entry.positions

/-! ## Looking up -/

@[simp] theorem lookup_nil (x : String) : lookup [] x = none := rfl

theorem lookup_cons (e : Entry) (es : List Entry) (x : String) :
    lookup (e :: es) x = if e.lexeme = x then some e.positions else lookup es x := by
  by_cases h : e.lexeme = x
  · simp [lookup, h]
  · simp [lookup, h]

/-- A lexeme is not found if and only if no entry has it. No order of the entries is needed for
this. -/
theorem lookup_eq_none_iff {es : List Entry} {x : String} :
    lookup es x = none ↔ ∀ e ∈ es, e.lexeme ≠ x := by
  simp [lookup]

/-- What is found for a lexeme is an entry, so whatever holds of all entries holds of what is looked
up. -/
theorem mem_of_lookup {es : List Entry} {x : String} {ps : List Position}
    (h : lookup es x = some ps) : ⟨x, ps⟩ ∈ es := by
  obtain ⟨e, he, rfl⟩ := Option.map_eq_some_iff.mp h
  have hx : e.lexeme = x := by simpa using List.find?_some he
  subst hx
  exact List.mem_of_find?_eq_some he

/-- A lexeme is found exactly if some entry has it. -/
theorem lookup_isSome_iff {es : List Entry} {x : String} :
    (lookup es x).isSome = true ↔ x ∈ es.map Entry.lexeme := by
  rw [← Option.ne_none_iff_isSome, Ne, lookup_eq_none_iff]
  simp

/-- A function of the lexeme and the positions of an entry acts on what is found. -/
theorem lookup_map (f : String → List Position → List Position) (es : List Entry) (x : String) :
    lookup (es.map fun e => ⟨e.lexeme, f e.lexeme e.positions⟩) x = (lookup es x).map (f x) := by
  induction es with
  | nil => rfl
  | cons e es ih =>
    rw [List.map_cons, lookup_cons, lookup_cons]
    by_cases h : e.lexeme = x
    · subst h
      simp only [if_true, Option.map_some]
    · simp only [if_neg h]
      exact ih

namespace Ascending

variable {es fs : List Entry}

theorem inOrder (h : Ascending es) : InOrder es :=
  h.imp fun hlt => String.not_lt.mp (String.lt_asymm hlt)

theorem nodup (h : Ascending es) : es.Nodup :=
  h.imp fun hlt heq => String.ne_of_lt hlt (congrArg Entry.lexeme heq)

/-- In strict byte order no two entries share a lexeme, so every entry is the one that is found for
its lexeme. -/
theorem lookup_of_mem (h : Ascending es) {e : Entry} (he : e ∈ es) :
    lookup es e.lexeme = some e.positions := by
  induction es with
  | nil => cases he
  | cons f es ih =>
    obtain ⟨hf, hes⟩ := List.pairwise_cons.mp h
    rw [lookup_cons]
    rcases List.mem_cons.mp he with rfl | he
    · exact if_pos rfl
    · rw [if_neg (String.ne_of_lt (hf e he)), ih hes he]

/-- In strict byte order, looking up a lexeme and having an entry for it are the same. With this a
fact about what is looked up becomes one about the entries, and back. -/
theorem lookup_eq_some_iff (h : Ascending es) {x : String} {ps : List Position} :
    lookup es x = some ps ↔ ⟨x, ps⟩ ∈ es :=
  ⟨mem_of_lookup, fun hmem => h.lookup_of_mem hmem⟩

/-- Entries in strict byte order are equal if their lexemes have the same positions. -/
theorem ext (he : Ascending es) (hf : Ascending fs) (h : ∀ x, lookup es x = lookup fs x) :
    es = fs := by
  have hperm : es.Perm fs := by
    refine (List.perm_ext_iff_of_nodup he.nodup hf.nodup).mpr fun ⟨x, ps⟩ => ?_
    rw [← he.lookup_eq_some_iff, ← hf.lookup_eq_some_iff, h x]
  refine List.Perm.eq_of_pairwise (fun a b _ _ hab hba => ?_) he hf hperm
  exact absurd hba (String.lt_asymm hab)

/-- Entries in strict byte order remain so when only their positions are changed. -/
theorem map (h : Ascending es) (f : Entry → List Position) :
    Ascending (es.map fun e => ⟨e.lexeme, f e⟩) :=
  List.Pairwise.map _ (fun _ _ hlt => hlt) h

end Ascending

/-! ## Gathering

`gather` makes one entry of neighbours with the same lexeme. When the lexemes are in byte order, all
entries with a lexeme are neighbours, and what a lexeme has in the end is `joined` from what its
entries have. -/

/-- The positions of several entries put together, from the last to the first. -/
def joined (join : List Position → List Position → List Position) :
    List (List Position) → Option (List Position)
  | [] => none
  | ps :: rest =>
    match joined join rest with
    | none => some ps
    | some qs => some (join ps qs)

/-- Gathering goes from the end of the list: an entry is joined with the one behind it if that has
the same lexeme. -/
theorem gather_cons (join : List Position → List Position → List Position) (e : Entry)
    (es : List Entry) :
    gather join (e :: es) =
      match gather join es with
      | [] => [e]
      | f :: rest =>
        if e.lexeme = f.lexeme then ⟨e.lexeme, join e.positions f.positions⟩ :: rest
        else e :: f :: rest :=
  rfl

variable {join : List Position → List Position → List Position} {es fs : List Entry}

/-- Gathering neither adds nor loses a lexeme. -/
theorem mem_lexemes_gather {x : String} :
    x ∈ (gather join es).map Entry.lexeme ↔ x ∈ es.map Entry.lexeme := by
  induction es with
  | nil => rfl
  | cons e es ih =>
    rw [gather_cons, List.map_cons, List.mem_cons, ← ih]
    rcases gather join es with _ | ⟨f, rest⟩
    · simp
    · by_cases h : e.lexeme = f.lexeme
      · simp [h]
      · simp [if_neg h]

/-- Gathering makes byte order strict. Entries of one lexeme stand next to each other then, and each
such group becomes one entry. -/
theorem ascending_gather (h : InOrder es) : Ascending (gather join es) := by
  induction es with
  | nil => exact List.Pairwise.nil
  | cons e es ih =>
    obtain ⟨he, hes⟩ := List.pairwise_cons.mp h
    have hasc : Ascending (gather join es) := ih hes
    -- gathering adds no lexeme, so the first entry stays in front of all others
    have hle : ∀ f ∈ gather join es, e.lexeme ≤ f.lexeme := by
      intro f hf
      obtain ⟨g, hg, hgf⟩ :=
        List.mem_map.mp (mem_lexemes_gather.mp (List.mem_map_of_mem (f := Entry.lexeme) hf))
      rw [← hgf]
      exact he g hg
    rw [gather_cons]
    rcases hk : gather join es with _ | ⟨f, rest⟩
    · exact List.pairwise_singleton _ e
    · rw [hk] at hasc hle
      obtain ⟨hf, hrest⟩ := List.pairwise_cons.mp hasc
      by_cases heq : e.lexeme = f.lexeme
      · simp only [if_pos heq]
        refine List.pairwise_cons.mpr ⟨fun g hg => ?_, hrest⟩
        change e.lexeme < g.lexeme
        rw [heq]
        exact hf g hg
      · simp only [if_neg heq]
        have hlt : e.lexeme < f.lexeme := by
          refine String.not_le.mp fun hge => heq ?_
          exact String.le_antisymm (hle f List.mem_cons_self) hge
        refine List.pairwise_cons.mpr ⟨fun g hg => ?_, hasc⟩
        rcases List.mem_cons.mp hg with rfl | hg
        · exact hlt
        · exact String.lt_trans hlt (hf g hg)

/-- After gathering, a lexeme has what its entries had, joined. -/
theorem lookup_gather (h : InOrder es) (x : String) :
    lookup (gather join es) x =
      joined join ((es.filter (·.lexeme = x)).map Entry.positions) := by
  induction es with
  | nil => rfl
  | cons e es ih =>
    have hes : InOrder es := (List.pairwise_cons.mp h).2
    have hasc : Ascending (gather join (e :: es)) := ascending_gather h
    specialize ih hes
    rw [gather_cons] at hasc ⊢
    rcases hk : gather join es with _ | ⟨f, rest⟩
    · rw [hk, lookup_nil] at ih
      by_cases hx : e.lexeme = x
      · simp [lookup_cons, hx, joined, ← ih]
      · simp [lookup_cons, hx, ← ih]
    · rw [hk] at ih hasc
      rw [lookup_cons] at ih
      by_cases heq : e.lexeme = f.lexeme
      · -- the first entry joins the one that was gathered from those behind it
        simp only [if_pos heq, lookup_cons]
        by_cases hx : e.lexeme = x
        · rw [if_pos (heq ▸ hx)] at ih
          simp [hx, joined, ← ih]
        · rw [if_neg (heq ▸ hx)] at ih
          simp [hx, ← ih]
      · simp only [if_neg heq, lookup_cons] at hasc ⊢
        by_cases hx : e.lexeme = x
        · -- all entries that follow have a later lexeme
          have hnone : lookup (f :: rest) x = none := by
            refine lookup_eq_none_iff.mpr fun g hg hgx => ?_
            have hlt := (List.pairwise_cons.mp hasc).1 g hg
            rw [hgx, hx] at hlt
            exact String.lt_irrefl x hlt
          rw [lookup_cons] at hnone
          rw [hnone] at ih
          simp [hx, joined, ← ih]
        · simp [hx, ← ih]

/-- Joining by appending: a lexeme has all positions of its entries. -/
theorem joined_append (pss : List (List Position)) :
    joined (· ++ ·) pss = if pss = [] then none else some pss.flatten := by
  induction pss with
  | nil => rfl
  | cons ps pss ih =>
    rw [joined, ih]
    cases pss with
    | nil => simp
    | cons qs pss => simp

/-! ## Sorting and merging -/

/-- The order in which entries are sorted and merged is that of their lexemes, and leaves their
positions out of account. -/
theorem Entry.before_iff {e f : Entry} : e.before f = true ↔ e.lexeme ≤ f.lexeme :=
  decide_eq_true_iff

theorem Entry.before_trans (e f g : Entry) (hef : e.before f = true) (hfg : f.before g = true) :
    e.before g = true :=
  before_iff.mpr (String.le_trans (before_iff.mp hef) (before_iff.mp hfg))

theorem Entry.before_total (e f : Entry) : (e.before f || f.before e) = true := by
  rw [Bool.or_eq_true, before_iff, before_iff]
  exact String.le_total _ _

/-- Sorted entries are in byte order; a lexeme may still have more than one of them. -/
theorem inOrder_mergeSort (es : List Entry) : InOrder (es.mergeSort Entry.before) :=
  (List.pairwise_mergeSort Entry.before_trans Entry.before_total es).imp Entry.before_iff.mp

/-- Two lists in byte order are merged into one, whatever lexemes they share. -/
theorem inOrder_merge (he : InOrder es) (hf : InOrder fs) :
    InOrder (es.merge fs Entry.before) :=
  (List.pairwise_merge Entry.before_trans Entry.before_total es fs
    (he.imp Entry.before_iff.mpr) (hf.imp Entry.before_iff.mpr)).imp Entry.before_iff.mp

/-- Sorting keeps the entries with a lexeme in their order. -/
theorem filter_mergeSort (es : List Entry) (x : String) :
    (es.mergeSort Entry.before).filter (·.lexeme = x) = es.filter (·.lexeme = x) := by
  have hsame : (es.filter (·.lexeme = x)).Pairwise fun e f => e.before f = true := by
    refine List.pairwise_of_forall_mem_list fun e he f hf => ?_
    simp only [List.mem_filter, decide_eq_true_eq] at he hf
    have heq : e.lexeme = f.lexeme := he.2.trans hf.2.symm
    exact Entry.before_iff.mpr (heq ▸ String.le_refl e.lexeme)
  have hsub := (List.sublist_mergeSort Entry.before_trans Entry.before_total hsame
    List.filter_sublist).filter (·.lexeme = x)
  rw [List.filter_filter] at hsub
  simp only [Bool.and_self] at hsub
  exact (hsub.eq_of_length ((List.mergeSort_perm es _).filter _).length_eq.symm).symm

/-- Merging keeps the entries with a lexeme in their order, those of the first list in front. -/
theorem filter_merge (he : InOrder es) (hf : InOrder fs) (x : String) :
    (es.merge fs Entry.before).filter (·.lexeme = x) =
      es.filter (·.lexeme = x) ++ fs.filter (·.lexeme = x) := by
  -- a merge takes from either list, so there is an induction on each
  induction es generalizing fs with
  | nil => simp
  | cons e es ihe =>
    induction fs with
    | nil => simp
    | cons f fs ihf =>
      obtain ⟨hee, hes⟩ := List.pairwise_cons.mp he
      obtain ⟨-, hfs⟩ := List.pairwise_cons.mp hf
      by_cases hef : e.before f = true
      · rw [List.cons_merge_cons_pos _ _ _ hef, List.filter_cons, List.filter_cons, ihe hes hf]
        by_cases hx : e.lexeme = x
        · simp [hx]
        · simp [hx]
      · rw [List.cons_merge_cons_neg _ _ _ hef, List.filter_cons, ihf hfs]
        by_cases hx : f.lexeme = x
        · -- `f` comes before all of the first list, which has no entry with its lexeme
          have hnone : (e :: es).filter (·.lexeme = x) = [] := by
            rw [Entry.before_iff, String.not_le] at hef
            refine List.filter_eq_nil_iff.mpr fun g hg => ?_
            rw [decide_eq_true_eq, ← hx]
            rcases List.mem_cons.mp hg with rfl | hg
            · exact (String.ne_of_lt hef).symm
            · intro hgf
              exact String.not_le.mpr hef (hgf ▸ hee g hg)
          rw [hnone]
          simp [hx]
        · simp [hx]

end EventIntake
