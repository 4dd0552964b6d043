import EventIntake.Proofs.SearchVector.Concat

/-!
# Compaction

Compaction leaves each lexeme its latest position and counts the places anew. The new place is the
`rank` of the old one, the number of different places up to it among the latest ones. Ranks count from
1 (`rank_pos`), keep the order and the ties (`rank_lt`, `rankOf_mono`), and reach no further than the
number of lexemes (`rank_le_size`). What a lexeme has afterwards is stated with them
(`positions?_compact`). No place is missing then (`exists_place_compact_iff`), so that nothing is left
for another compaction (`compact_compact`).
-/

namespace EventIntake.SearchVector

/-! ## Counting the places that occur -/

/-- How many different places there are up to `n`. -/
def rankOf (places : List Nat) (n : Nat) : Nat :=
  (List.range (n + 1)).countP (· ∈ places)

/-- The rank goes up by one at each place that occurs, and stays the same in between. -/
theorem rankOf_succ (places : List Nat) (n : Nat) :
    rankOf places (n + 1) = rankOf places n + if n + 1 ∈ places then 1 else 0 := by
  rw [rankOf, List.range_succ, List.countP_append, ← rankOf, List.countP_singleton]
  simp only [decide_eq_true_eq]

/-- A later place has no smaller rank, so renumbering keeps places in order. -/
theorem rankOf_mono (places : List Nat) {m n : Nat} (h : m ≤ n) :
    rankOf places m ≤ rankOf places n := by
  induction n with
  | zero =>
    obtain rfl : m = 0 := by omega
    exact Nat.le_refl _
  | succ n ih =>
    rcases Nat.lt_or_ge n m with hlt | hge
    · obtain rfl : m = n + 1 := by omega
      exact Nat.le_refl _
    · rw [rankOf_succ]
      exact Nat.le_trans (ih hge) (Nat.le_add_right _ _)

/-- A place that occurs has a greater rank than all before it. -/
theorem rankOf_lt {places : List Nat} {m n : Nat} (h : m < n) (hn : n ∈ places) :
    rankOf places m < rankOf places n := by
  obtain ⟨k, rfl⟩ : ∃ k, n = k + 1 := ⟨n - 1, by omega⟩
  rw [rankOf_succ, if_pos hn]
  exact Nat.lt_succ_of_le (rankOf_mono places (by omega))

theorem rankOf_pos {places : List Nat} {n : Nat} (hn : n ∈ places) : 1 ≤ rankOf places n := by
  rw [rankOf]
  exact List.countP_pos_iff.mpr ⟨n, List.mem_range.mpr (Nat.lt_succ_self n), decide_eq_true hn⟩

/-- Without a place 0, no rank exceeds its place. -/
theorem rankOf_le {places : List Nat} (h0 : 0 ∉ places) (n : Nat) : rankOf places n ≤ n := by
  induction n with
  | zero => simp [rankOf, h0]
  | succ n ih =>
    rw [rankOf_succ]
    split <;> omega

/-- There are no more ranks than places. -/
theorem rankOf_le_length (places : List Nat) (n : Nat) : rankOf places n ≤ places.length := by
  rw [rankOf, List.countP_eq_length_filter]
  refine List.Nodup.length_le_of_subset (List.nodup_range.filter _) fun k hk => ?_
  exact of_decide_eq_true (List.mem_filter.mp hk).2

/-- Every number up to a rank is itself the rank of a place. -/
theorem exists_rankOf_eq {places : List Nat} {n k : Nat} (hpos : 1 ≤ k)
    (hk : k ≤ rankOf places n) : ∃ m ∈ places, rankOf places m = k := by
  induction n with
  | zero =>
    have hone : rankOf places 0 ≤ 1 := List.countP_le_length
    refine ⟨0, Decidable.byContradiction fun h0 => ?_, by omega⟩
    have hzero := rankOf_le h0 0
    omega
  | succ n ih =>
    rcases Nat.lt_or_ge (rankOf places n) k with hlt | hge
    · -- the rank grows by one at most, and only at a place
      rw [rankOf_succ] at hk
      split at hk
      next hmem => exact ⟨n + 1, hmem, by rw [rankOf_succ, if_pos hmem]; omega⟩
      next => omega
    · exact ih hge

/-- Where no number is missing, every place is its own rank. -/
theorem rankOf_eq_self {places : List Nat} (h0 : 0 ∉ places) {n : Nat}
    (h : ∀ m, 1 ≤ m → m ≤ n → m ∈ places) : rankOf places n = n := by
  induction n with
  | zero => exact Nat.le_zero.mp (rankOf_le h0 0)
  | succ n ih =>
    rw [rankOf_succ, if_pos (h (n + 1) (Nat.succ_pos n) (Nat.le_refl _)),
      ih fun m hm hle => h m hm (Nat.le_succ_of_le hle)]

/-! ## The table of ranks

`ranks` marks the places that occur in one pass, and sums the marks up in another. -/

/-- 1 for a place that occurs, 0 for another. -/
def mark (places : List Nat) (n : Nat) : Nat :=
  if n ∈ places then 1 else 0

/-- The first pass marks the places that occur, as far as the table reaches. -/
theorem getElem?_foldl_setIfInBounds (places : List Nat) (used : Array Nat) (n : Nat) :
    (places.foldl (fun used p => used.setIfInBounds p 1) used)[n]? =
      if n ∈ places ∧ n < used.size then some 1 else used[n]? := by
  induction places generalizing used with
  | nil => simp
  | cons p places ih =>
    rw [List.foldl_cons, ih, Array.size_setIfInBounds, Array.getElem?_setIfInBounds]
    by_cases hn : n < used.size
    · by_cases hp : p = n
      · simp [hp, hn]
      · simp [hp, hn, Ne.symm hp]
    · by_cases hp : p = n
      · simp [hp, hn]
      · simp [hp, hn]

/-- The first loop marks each place that occurs, however often that is, in a table with a row for
every place. -/
theorem toList_marks (places : List Nat) :
    (places.foldl (fun used p => used.setIfInBounds p 1)
      (Array.replicate (maxPlace + 1) 0)).toList =
      (List.range (maxPlace + 1)).map (mark places) := by
  refine List.ext_getElem? fun n => ?_
  rw [Array.getElem?_toList, getElem?_foldl_setIfInBounds, Array.size_replicate,
    Array.getElem?_replicate, List.getElem?_map]
  by_cases hn : n < maxPlace + 1
  · rw [List.getElem?_range hn]
    by_cases hp : n ∈ places
    · simp [hn, hp, mark]
    · simp [hn, hp, mark]
  · rw [List.getElem?_eq_none (by rw [List.length_range]; omega)]
    simp [hn]

/-- The second pass sums the marks up. -/
theorem toList_foldl_push (places : List Nat) (k n count : Nat) (done : Array Nat)
    (hcount : count = (List.range k).countP (· ∈ places)) :
    (((List.range' k n).map (mark places)).foldl
      (fun (count, ranks) u => (count + u, ranks.push (count + u))) (count, done)).2.toList =
      done.toList ++ (List.range' k n).map (rankOf places) := by
  induction n generalizing k count done with
  | zero => simp
  | succ n ih =>
    have hnext : count + mark places k = rankOf places k := by
      rw [hcount, rankOf, List.range_succ, List.countP_append, List.countP_singleton, mark]
      simp only [decide_eq_true_eq]
    rw [List.range'_succ, List.map_cons, List.foldl_cons, ih (k + 1) _ _ hnext, hnext]
    simp

/-- The table gives the rank of every place. -/
theorem getD_ranks (places : List Nat) {n : Nat} (h : n ≤ maxPlace) :
    (ranks places).getD n 0 = rankOf places n := by
  have htable : (ranks places).toList = (List.range' 0 (maxPlace + 1)).map (rankOf places) := by
    rw [ranks, ← Array.foldl_toList, toList_marks, List.range_eq_range',
      toList_foldl_push places 0 (maxPlace + 1) 0 #[] rfl]
    exact List.nil_append _
  rw [Array.getD_eq_getD_getElem?, ← Array.getElem?_toList, htable, List.getElem?_map,
    ← List.range_eq_range', List.getElem?_range (by omega), Option.map_some, Option.getD_some]

/-! ## Compacted vectors -/

variable {v : SearchVector} {x : String} {ps : List Position}

/-- The latest places of the lexemes that have any. -/
def latestPlaces (v : SearchVector) : List Nat :=
  v.entries.filterMap fun e => e.latest?.map Position.place

/-- The new place in compaction. -/
def rank (v : SearchVector) (n : Nat) : Nat :=
  rankOf v.latestPlaces n

theorem mem_latestPlaces (hx : v.positions? x = some ps) (hps : ps ≠ []) :
    lastPlace ps ∈ v.latestPlaces := by
  refine List.mem_filterMap.mpr ⟨⟨x, ps⟩, mem_of_lookup hx, ?_⟩
  rw [Entry.latest?, lastPlace, List.getLast?_eq_some_getLast hps]
  rfl

theorem exists_of_mem_latestPlaces (hv : Ascending v.entries) {n : Nat} (hn : n ∈ v.latestPlaces) :
    ∃ x ps, v.positions? x = some ps ∧ ps ≠ [] ∧ lastPlace ps = n := by
  obtain ⟨e, he, hlatest⟩ := List.mem_filterMap.mp hn
  obtain ⟨p, hp, rfl⟩ := Option.map_eq_some_iff.mp hlatest
  refine ⟨e.lexeme, e.positions, hv.lookup_of_mem he, ?_, ?_⟩
  · exact List.ne_nil_of_mem (List.mem_of_getLast? hp)
  · exact congrArg (fun last => (last.map Position.place).getD 0) hp

theorem rank_pos (hx : v.positions? x = some ps) (hps : ps ≠ []) : 1 ≤ v.rank (lastPlace ps) :=
  rankOf_pos (mem_latestPlaces hx hps)

/-- Every place before the latest one of a lexeme has a smaller rank than that. So lexemes whose
latest places differ keep their order. -/
theorem rank_lt (hx : v.positions? x = some ps) (hps : ps ≠ []) {n : Nat}
    (hn : n < lastPlace ps) : v.rank n < v.rank (lastPlace ps) :=
  rankOf_lt hn (mem_latestPlaces hx hps)

theorem rank_le_size (v : SearchVector) (n : Nat) : v.rank n ≤ v.size :=
  Nat.le_trans (rankOf_le_length _ _) (List.length_filterMap_le _ _)

/-- Compaction moves no place up, because the places below it that do not count are passed over. -/
theorem WellFormed.rank_le (hv : v.WellFormed) (n : Nat) : v.rank n ≤ n := by
  refine rankOf_le (fun hmem => ?_) n
  obtain ⟨e, he, hlatest⟩ := List.mem_filterMap.mp hmem
  obtain ⟨p, hp, hzero⟩ := Option.map_eq_some_iff.mp hlatest
  have hpos := ((hv.entry he).inRange p (List.mem_of_getLast? hp)).1
  omega

/-- What compaction leaves of some positions: the last, at its rank. -/
def compacted (v : SearchVector) (ps : List Position) : List Position :=
  (ps.getLast?.map fun p => ⟨v.rank p.place, p.weight⟩).toList

@[simp] theorem compacted_nil (v : SearchVector) : v.compacted [] = [] := rfl

@[simp] theorem compacted_singleton (v : SearchVector) (p : Position) :
    v.compacted [p] = [⟨v.rank p.place, p.weight⟩] := rfl

@[simp] theorem compacted_concat (v : SearchVector) (ps : List Position) (p : Position) :
    v.compacted (ps ++ [p]) = [⟨v.rank p.place, p.weight⟩] := by
  simp [compacted]

/-- Of a lexeme with positions, one is left. It stands at the rank of the latest place. -/
theorem lastPlace_compacted (hps : ps ≠ []) :
    lastPlace (v.compacted ps) = v.rank (lastPlace ps) := by
  rw [compacted, lastPlace, lastPlace, List.getLast?_eq_some_getLast hps]
  rfl

theorem length_compacted_le (v : SearchVector) (ps : List Position) :
    (v.compacted ps).length ≤ 1 := by
  rw [compacted]
  cases ps.getLast? with
  | none => exact Nat.zero_le 1
  | some p => exact Nat.le_refl 1

/-- No lexeme has more positions after compaction than it had before, so one without positions still
has none. -/
theorem length_compacted_le_length (v : SearchVector) (ps : List Position) :
    (v.compacted ps).length ≤ ps.length := by
  rcases List.eq_nil_or_concat ps with rfl | ⟨front, p, rfl⟩
  · exact Nat.le_refl 0
  · simp

/-- Compaction goes entry by entry: only the table of ranks depends on the vector as a whole. -/
theorem entries_compact (v : SearchVector) :
    v.compact.entries = v.entries.map fun e =>
      ⟨e.lexeme, (e.positions.getLast?.map fun p =>
        Position.ofPlace ((ranks v.latestPlaces).getD p.place 0) p.weight).toList⟩ := by
  simp only [compact, latestPlaces, Entry.latest?]

theorem ascending_compact (hv : Ascending v.entries) : Ascending v.compact.entries := by
  rw [entries_compact]
  exact hv.map _

/-- After compaction a lexeme has its latest position at its rank. -/
theorem WellFormed.positions?_compact (hv : v.WellFormed) (x : String) :
    v.compact.positions? x = (v.positions? x).map v.compacted := by
  rw [positions?_eq_lookup, entries_compact, lookup_map (fun _ ps => (ps.getLast?.map fun p =>
    Position.ofPlace ((ranks v.latestPlaces).getD p.place 0) p.weight).toList),
    ← positions?_eq_lookup]
  rcases hx : v.positions? x with _ | ps
  · rw [Option.map_none, Option.map_none]
  · rcases List.eq_nil_or_concat ps with rfl | ⟨front, p, rfl⟩
    · simp only [Option.map_some, compacted, List.getLast?_nil, Option.map_none]
    · rw [List.concat_eq_append] at hx ⊢
      have hp : p ∈ front ++ [p] := List.mem_append_right _ (List.mem_singleton.mpr rfl)
      obtain ⟨h1, h2⟩ := (hv.positions hx).inRange p hp
      have hpos : 1 ≤ v.rank p.place := by
        have h := rank_pos hx (List.append_ne_nil_of_right_ne_nil _ (List.cons_ne_nil _ _))
        rwa [lastPlace_concat] at h
      -- a rank is at most its place, so it is in range without being cut off
      have hle : v.rank p.place ≤ maxPlace := Nat.le_trans (hv.rank_le p.place) h2
      simp only [Option.map_some, compacted, List.getLast?_concat, getD_ranks _ h2]
      rw [← rank, Position.ofPlace_eq hpos hle]

theorem WellFormed.positionsOf_compact (hv : v.WellFormed) (x : String) :
    v.compact.positionsOf x = v.compacted (v.positionsOf x) := by
  rcases hx : v.positions? x with _ | ps
  · rw [positionsOf_eq_nil hx, positionsOf_eq_nil (by rw [hv.positions?_compact, hx, Option.map_none]),
      compacted_nil]
  · rw [positionsOf_eq hx]
    exact positionsOf_eq (by rw [hv.positions?_compact, hx, Option.map_some])

/-- A compacted vector is well-formed: the ranks are in range, and a single position is always in
order. -/
theorem WellFormed.compact (hv : v.WellFormed) : v.compact.WellFormed := by
  refine wellFormed_of_positions (ascending_compact hv.ascending) fun x qs hx => ?_
  rw [hv.positions?_compact] at hx
  obtain ⟨ps, hps, rfl⟩ := Option.map_eq_some_iff.mp hx
  refine ⟨(hv.positions hps).lexeme_ok, ?_, ?_, ?_⟩
  · rcases List.eq_nil_or_concat ps with rfl | ⟨front, p, rfl⟩
    · exact fun _ hp => absurd hp List.not_mem_nil
    · rw [List.concat_eq_append] at hps ⊢
      intro q hq
      have hp : p ∈ front ++ [p] := List.mem_append_right _ (List.mem_singleton.mpr rfl)
      rw [compacted, List.getLast?_concat] at hq
      obtain rfl := List.mem_singleton.mp hq
      have hpos := rank_pos hps (List.append_ne_nil_of_right_ne_nil _ (List.cons_ne_nil _ _))
      rw [lastPlace_concat] at hpos
      exact ⟨hpos, Nat.le_trans (hv.rank_le p.place) ((hv.positions hps).inRange p hp).2⟩
  · rw [compacted]
    cases ps.getLast? with
    | none => exact List.Pairwise.nil
    | some p => exact List.pairwise_singleton _ _
  · exact Nat.le_trans (length_compacted_le v ps) (by decide)

/-- Compaction leaves no lexeme out, and adds none. -/
theorem lexemes_compact (v : SearchVector) : v.compact.lexemes = v.lexemes := by
  rw [lexemes, entries_compact, List.map_map]
  exact List.map_congr_left fun e _ => rfl

/-! ## The places after compaction -/

/-- No place of a compacted vector exceeds the last rank. -/
theorem WellFormed.maxPosition_compact_le_rank (hv : v.WellFormed) :
    v.compact.maxPosition ≤ v.rank v.maxPosition := by
  refine maxPosition_le_iff.mpr fun e he => ?_
  have hcompact : v.compact.positions? e.lexeme = some e.positions :=
    hv.compact.ascending.lookup_of_mem he
  rw [hv.positions?_compact] at hcompact
  obtain ⟨ps, hps, heq⟩ := Option.map_eq_some_iff.mp hcompact
  rw [← heq]
  by_cases hnil : ps = []
  · rw [hnil]
    exact Nat.zero_le _
  · rw [lastPlace_compacted hnil]
    exact rankOf_mono _ (lastPlace_le_maxPosition hps)

/-- No place up to the greatest is missing. -/
theorem WellFormed.mem_latestPlaces_compact (hv : v.WellFormed) {n : Nat} (hpos : 1 ≤ n)
    (hle : n ≤ v.compact.maxPosition) : n ∈ v.compact.latestPlaces := by
  obtain ⟨m, hm, rfl⟩ : ∃ m ∈ v.latestPlaces, v.rank m = n :=
    exists_rankOf_eq hpos (Nat.le_trans hle hv.maxPosition_compact_le_rank)
  obtain ⟨x, ps, hps, hne, rfl⟩ := exists_of_mem_latestPlaces hv.ascending hm
  have hcompact : v.compact.positions? x = some (v.compacted ps) := by
    rw [hv.positions?_compact, hps, Option.map_some]
  rw [← lastPlace_compacted hne]
  refine mem_latestPlaces hcompact fun hnil => ?_
  have hrank := rank_pos hps hne
  rw [← lastPlace_compacted hne, hnil] at hrank
  cases hrank

/-- The places are exactly those from 1 to the greatest. -/
theorem WellFormed.exists_place_compact_iff (hv : v.WellFormed) (n : Nat) :
    (∃ e ∈ v.compact.entries, ∃ p ∈ e.positions, p.place = n) ↔
      1 ≤ n ∧ n ≤ v.compact.maxPosition := by
  constructor
  · rintro ⟨e, he, p, hp, rfl⟩
    have hx : v.compact.positions? e.lexeme = some e.positions :=
      hv.compact.ascending.lookup_of_mem he
    exact ⟨((hv.compact.entry he).inRange p hp).1, hv.compact.place_le_maxPosition hx hp⟩
  · rintro ⟨hpos, hle⟩
    obtain ⟨e, he, hlatest⟩ := List.mem_filterMap.mp (hv.mem_latestPlaces_compact hpos hle)
    obtain ⟨p, hp, rfl⟩ := Option.map_eq_some_iff.mp hlatest
    exact ⟨e, he, p, List.mem_of_getLast? hp, rfl⟩

/-- What is lossless stays so when the first vector is compacted. -/
theorem Lossless.compact (h : v.Lossless w) (hv : v.WellFormed) : v.compact.Lossless w := by
  refine ⟨?_, fun x ps qs hps hqs => ?_⟩
  · have hle := Nat.le_trans hv.maxPosition_compact_le_rank (hv.rank_le v.maxPosition)
    have hreach := h.reach
    omega
  · rw [hv.positions?_compact] at hps
    obtain ⟨ps, hx, rfl⟩ := Option.map_eq_some_iff.mp hps
    have hle := length_compacted_le_length v ps
    have hroom := h.room x ps qs hx hqs
    omega

/-- A compacted vector is compact. -/
theorem WellFormed.compact_compact (hv : v.WellFormed) : v.compact.compact = v.compact := by
  have hranks {n : Nat} (hle : n ≤ v.compact.maxPosition) : v.compact.rank n = n := by
    refine rankOf_eq_self (fun h0 => ?_) fun m hpos hm =>
      hv.mem_latestPlaces_compact hpos (Nat.le_trans hm hle)
    obtain ⟨x, ps, hps, hne, hzero⟩ := exists_of_mem_latestPlaces hv.compact.ascending h0
    exact hne ((hv.compact.positions hps).inRange.eq_nil_of_lastPlace hzero)
  refine hv.compact.compact.ext hv.compact fun x => ?_
  rw [hv.compact.positions?_compact]
  rcases hx : v.compact.positions? x with _ | qs
  · rfl
  · -- there is one position at most, and its place is its own rank
    have hqs := hx
    rw [hv.positions?_compact] at hqs
    obtain ⟨ps, -, rfl⟩ := Option.map_eq_some_iff.mp hqs
    rw [Option.map_some]
    rcases List.eq_nil_or_concat ps with rfl | ⟨front, p, rfl⟩
    · rfl
    · rw [List.concat_eq_append, compacted_concat] at hx ⊢
      have hself : v.compact.rank (v.rank p.place) = v.rank p.place :=
        hranks (lastPlace_le_maxPosition hx)
      rw [compacted_singleton, hself]

end EventIntake.SearchVector
