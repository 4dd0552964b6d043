import EventIntake.Proofs.SearchVector.Compact

/-!
# Latest places

The latest place of a lexeme and what the operations make of it. In a lossless concatenation the
latest places compare by the second vector first (`lastOf_concat_lt_iff`). With losses a lexeme comes
no later than it should (`lastOf_concat_le`), and no earlier either unless it gets too many positions
(`le_lastOf_concat`). Compaction keeps how latest places compare (`lastOf_compact_lt_iff`), and makes
room for a vector with few places (`lossless_compact`).
-/

namespace EventIntake.SearchVector

variable {v w : SearchVector} {x y : String} {ps : List Position}

/-! ## The latest place of a lexeme -/

/-- The latest place of a lexeme, 0 if it has none. -/
def lastOf (v : SearchVector) (x : String) : Nat :=
  lastPlace ((v.positions? x).getD [])

theorem lastOf_eq (hx : v.positions? x = some ps) : v.lastOf x = lastPlace ps := by
  rw [lastOf, hx, Option.getD_some]

theorem lastOf_eq_zero (hx : v.positions? x = none) : v.lastOf x = 0 := by
  rw [lastOf, hx, Option.getD_none, lastPlace_nil]

/-- A lexeme that is not in the vector counts as having occurred before all others, like one without
positions. -/
theorem lastOf_eq_zero_of_not_mem (hx : x ∉ v.lexemes) : v.lastOf x = 0 :=
  lastOf_eq_zero (positions?_eq_none hx)

/-- The latest place of an entry is that of its lexeme, so freshness can be told by lexemes. -/
theorem latestPlace_eq_lastOf (hv : Ascending v.entries) {e : Entry} (he : e ∈ v.entries) :
    e.latestPlace = v.lastOf e.lexeme :=
  (lastOf_eq (hv.lookup_of_mem he)).symm

/-- The latest place of a lexeme is at most that of the vector. -/
theorem lastOf_le_maxPosition (v : SearchVector) (x : String) : v.lastOf x ≤ v.maxPosition := by
  rcases hx : v.positions? x with _ | ps
  · rw [lastOf_eq_zero hx]
    exact Nat.zero_le _
  · rw [lastOf_eq hx]
    exact lastPlace_le_maxPosition hx

theorem le_lastOf (hv : v.WellFormed) {p : Position} (hp : p ∈ v.positionsOf x) :
    p.place ≤ v.lastOf x :=
  le_lastPlace (hv.positionsOf_ok x).2.1 hp

theorem lastOf_le {n : Nat} (h : ∀ p ∈ v.positionsOf x, p.place ≤ n) : v.lastOf x ≤ n := by
  rw [lastOf, ← positionsOf, lastPlace]
  rcases hlast : (v.positionsOf x).getLast? with _ | p
  · exact Nat.zero_le n
  · exact h p (List.mem_of_getLast? hlast)

theorem maxPosition_le_of_lastOf (hv : Ascending v.entries) {n : Nat} (h : ∀ x, v.lastOf x ≤ n) :
    v.maxPosition ≤ n := by
  refine maxPosition_le_iff.mpr fun e he => ?_
  rw [← lastOf_eq (hv.lookup_of_mem he)]
  exact h e.lexeme

theorem WellFormed.maxPosition_le (hv : v.WellFormed) : v.maxPosition ≤ maxPlace :=
  maxPosition_le_of_lastOf hv.ascending fun _ =>
    lastOf_le fun p hp => ((hv.positionsOf_ok _).1 p hp).2

/-- A lexeme with a latest place has positions. -/
theorem exists_positions_of_lastOf (h : 1 ≤ v.lastOf x) :
    ∃ ps, v.positions? x = some ps ∧ ps ≠ [] ∧ v.lastOf x = lastPlace ps := by
  rcases hx : v.positions? x with _ | ps
  · rw [lastOf_eq_zero hx] at h
    cases h
  · refine ⟨ps, rfl, ?_, lastOf_eq hx⟩
    rintro rfl
    rw [lastOf_eq hx, lastPlace_nil] at h
    cases h

theorem positionsOf_ne_nil (h : 1 ≤ v.lastOf x) : v.positionsOf x ≠ [] := by
  intro hnil
  rw [lastOf, ← positionsOf, hnil] at h
  cases h

theorem lastOf_eq_getLast (h : v.positionsOf x ≠ []) :
    v.lastOf x = ((v.positionsOf x).getLast h).place := by
  rw [lastOf, ← positionsOf, lastPlace, List.getLast?_eq_some_getLast h, Option.map_some,
    Option.getD_some]

/-! ## Concatenation -/

/-- How many positions a lexeme has. -/
def countOf (v : SearchVector) (x : String) : Nat :=
  ((v.positions? x).getD []).length

theorem countOf_eq (hx : v.positions? x = some ps) : v.countOf x = ps.length := by
  rw [countOf, hx, Option.getD_some]

/-- A lexeme of the second vector comes no later than its latest place moved past the first. -/
theorem lastOf_concat_le (hv : v.WellFormed) (hw : w.WellFormed) (x : String) :
    (v.concat w).lastOf x ≤ v.maxPosition + w.lastOf x := by
  refine lastOf_le fun q hq => ?_
  rw [positionsOf_concat hv hw] at hq
  rcases List.mem_append.mp (mem_of_mem_settle hq) with hq | hq
  · exact Nat.le_trans (hv.place_le_of_mem hq) (Nat.le_add_right _ _)
  · obtain ⟨r, hr, rfl⟩ := List.mem_map.mp (mem_of_mem_settle hq)
    have hshift := place_shift_le (m := v.maxPosition) ((hw.positionsOf_ok x).1 r hr).1
    have hle := le_lastOf hw hr
    omega

/-- It comes there, or last of all, if it does not have too many positions. -/
theorem le_lastOf_concat (hv : v.WellFormed) (hw : w.WellFormed) (hx : 1 ≤ w.lastOf x)
    (hroom : v.countOf x + w.countOf x ≤ maxPositions) :
    min (v.maxPosition + w.lastOf x) maxPlace ≤ (v.concat w).lastOf x := by
  have hne := positionsOf_ne_nil hx
  have hcount : (v.positionsOf x).length + (w.positionsOf x).length ≤ maxPositions := hroom
  have hmoved := length_settle_le_length ((w.positionsOf x).map (.shift v.maxPosition))
  rw [List.length_map] at hmoved
  -- the latest position is among the moved ones, and all positions are few
  have hmem := List.mem_map_of_mem (f := Position.shift v.maxPosition) (List.getLast_mem hne)
  obtain ⟨r, hr, hplace⟩ := exists_mem_settle (by rw [List.length_map]; omega) hmem
  obtain ⟨s, hs, hsame⟩ := exists_mem_settle (by rw [List.length_append]; omega)
    (List.mem_append_right (v.positionsOf x) hr)
  rw [← positionsOf_concat hv hw] at hs
  have hle := le_lastOf (hv.concat hw) hs
  have hmin := min_le_place_shift v.maxPosition ((w.positionsOf x).getLast hne)
  rw [lastOf_eq_getLast hne]
  omega

/-- It comes after all places of the first vector, if there is a place left and room for a position. -/
theorem lt_lastOf_concat (hv : v.WellFormed) (hw : w.WellFormed) (hx : 1 ≤ w.lastOf x)
    (hplaces : v.maxPosition < maxPlace) (hroom : v.countOf x < maxPositions) :
    v.maxPosition < (v.concat w).lastOf x := by
  have hrange := (hw.positionsOf_ok x).1
  have hfew : (v.positionsOf x).length < maxPositions := hroom
  have hboth := positionsOf_concat hv hw x
  rw [settle_append_shift (hv.positionsOf_ok x).2.1 (fun q hq => hv.place_le_of_mem hq) hrange
    hplaces] at hboth
  -- there is room for the first of the moved positions
  rcases hmoved : settle ((w.positionsOf x).map (.shift v.maxPosition)) with _ | ⟨r, rest⟩
  · exact absurd hmoved
      (settle_ne_nil fun hnil => positionsOf_ne_nil hx (List.map_eq_nil_iff.mp hnil))
  · have hr : r ∈ settle ((w.positionsOf x).map (.shift v.maxPosition)) :=
      hmoved ▸ List.mem_cons_self
    obtain ⟨q, hq, rfl⟩ := List.mem_map.mp (mem_of_mem_settle hr)
    refine Nat.lt_of_lt_of_le (lt_place_shift (hrange q hq).1 hplaces)
      (le_lastOf (hv.concat hw) ?_)
    rw [hboth, hmoved, List.take_append]
    refine List.mem_append_right _ ?_
    obtain ⟨k, hk⟩ : ∃ k, maxPositions - (v.positionsOf x).length = k + 1 :=
      ⟨maxPositions - (v.positionsOf x).length - 1, by omega⟩
    rw [hk, List.take_succ_cons]
    exact List.mem_cons_self

/-- A lexeme without a place in the second vector keeps its latest place. -/
theorem lastOf_concat_of_eq_zero (hv : v.WellFormed) (hw : w.WellFormed) (hx : w.lastOf x = 0) :
    (v.concat w).lastOf x = v.lastOf x := by
  obtain ⟨-, hinc, hfew⟩ := hv.positionsOf_ok x
  -- a lexeme whose latest place is 0 has no positions
  have hnil : w.positionsOf x = [] := (hw.positionsOf_ok x).1.eq_nil_of_lastPlace hx
  have hsame := positionsOf_concat hv hw x
  rw [hnil, List.map_nil, settle_nil, List.append_nil, settle_eq_self hinc hfew] at hsame
  exact congrArg lastPlace hsame

/-! ## Concatenation without losses -/

/-- A concatenation without loss has room for the positions of both vectors for every lexeme. -/
theorem Lossless.countOf_add_le (h : v.Lossless w) (hv : v.WellFormed) (hw : w.WellFormed)
    (x : String) : v.countOf x + w.countOf x ≤ maxPositions := by
  have hlength := h.length_followed_le hv hw x
  rwa [followed, movedBy, List.length_append, List.length_map] at hlength

/-- The lexemes of the second vector come after all places of the first. -/
theorem lastOf_concat (h : v.Lossless w) (hv : v.WellFormed) (hw : w.WellFormed)
    (hx : 1 ≤ w.lastOf x) : (v.concat w).lastOf x = w.lastOf x + v.maxPosition := by
  have hle := lastOf_concat_le hv hw x
  have hge := le_lastOf_concat hv hw hx (h.countOf_add_le hv hw x)
  have hmax := lastOf_le_maxPosition w x
  have hreach := h.reach
  omega

/-- The latest places compare as in the second vector, and where neither lexeme has a place there, as
in the first. -/
theorem lastOf_concat_lt_iff (h : v.Lossless w) (hv : v.WellFormed) (hw : w.WellFormed) :
    (v.concat w).lastOf x < (v.concat w).lastOf y ↔
      w.lastOf x < w.lastOf y ∨ w.lastOf x = 0 ∧ w.lastOf y = 0 ∧ v.lastOf x < v.lastOf y := by
  have hxle := lastOf_le_maxPosition v x
  have hyle := lastOf_le_maxPosition v y
  rcases Nat.eq_zero_or_pos (w.lastOf x) with hx | hx
  · rw [lastOf_concat_of_eq_zero hv hw hx]
    rcases Nat.eq_zero_or_pos (w.lastOf y) with hy | hy
    · rw [lastOf_concat_of_eq_zero hv hw hy]
      omega
    · rw [lastOf_concat h hv hw hy]
      omega
  · rw [lastOf_concat h hv hw hx]
    rcases Nat.eq_zero_or_pos (w.lastOf y) with hy | hy
    · rw [lastOf_concat_of_eq_zero hv hw hy]
      omega
    · rw [lastOf_concat h hv hw hy]
      omega

/-! ## Compaction -/

/-- After compaction the latest places are their ranks. -/
theorem lastOf_compact (hv : v.WellFormed) (x : String) :
    v.compact.lastOf x = v.rank (v.lastOf x) := by
  rw [lastOf, lastOf, ← positionsOf, ← positionsOf, hv.positionsOf_compact]
  by_cases hnil : v.positionsOf x = []
  · have hzero : v.rank 0 = 0 := Nat.le_zero.mp (hv.rank_le 0)
    rw [hnil, compacted_nil, lastPlace_nil, hzero]
  · exact lastPlace_compacted hnil

/-- Compaction keeps how the latest places compare. -/
theorem lastOf_compact_lt_iff (hv : v.WellFormed) :
    v.compact.lastOf x < v.compact.lastOf y ↔ v.lastOf x < v.lastOf y := by
  rw [lastOf_compact hv, lastOf_compact hv]
  constructor
  · intro hlt
    refine Nat.lt_of_not_le fun hle => ?_
    exact Nat.not_le_of_lt hlt (rankOf_mono _ hle)
  · intro hlt
    obtain ⟨ps, hps, hne, hlast⟩ := exists_positions_of_lastOf (Nat.zero_lt_of_lt hlt)
    rw [hlast] at hlt ⊢
    exact rank_lt hps hne hlt

/-- No place of a compacted vector exceeds the number of its lexemes. -/
theorem maxPosition_compact_le (hv : v.WellFormed) : v.compact.maxPosition ≤ v.size := by
  refine maxPosition_le_of_lastOf hv.compact.ascending fun x => ?_
  rw [lastOf_compact hv]
  exact rank_le_size v _

/-- A compacted vector leaves room for further positions: no lexeme has more than one. -/
theorem countOf_compact_le (hv : v.WellFormed) (x : String) : v.compact.countOf x ≤ 1 := by
  rw [countOf, ← positionsOf, hv.positionsOf_compact]
  exact length_compacted_le v _

/-- Compaction makes room for a vector whose places, together with the number of lexemes, stay in the
range, and that has no lexeme with the greatest number of positions. -/
theorem lossless_compact (hv : v.WellFormed) (hreach : v.size + w.maxPosition ≤ maxPlace)
    (hroom : ∀ x, w.countOf x < maxPositions) : v.compact.Lossless w := by
  refine ⟨?_, fun x ps qs hps hqs => ?_⟩
  · have hle := maxPosition_compact_le hv
    omega
  · have hone := countOf_compact_le hv x
    have hlen := hroom x
    rw [countOf_eq hps] at hone
    rw [countOf_eq hqs] at hlen
    omega

end EventIntake.SearchVector
