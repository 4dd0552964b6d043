import EventIntake.Proofs.SearchVector.WellFormed
import Mathlib.Data.List.Sort

/-!
# Concatenation

What a lexeme has in a concatenation is what it has in the first vector, followed by what it has in
the second with the places moved past the greatest of the first, all of it settled
(`positions?_concat`). The concatenation is `Lossless` if no place leaves the range and no lexeme has
too many positions, which is what `concatIsLossless` decides (`concatIsLossless_iff`); then nothing
is settled away (`Lossless.positionsOf_concat`). With too many positions, the latest are left out
(`positionsOf_concat_of_reach`).
-/

namespace EventIntake

/-! ## The latest place -/

/-- The place of the last of some positions, 0 if there is none. -/
def lastPlace (ps : List Position) : Nat :=
  (ps.getLast?.map Position.place).getD 0

@[simp] theorem lastPlace_nil : lastPlace [] = 0 := rfl

@[simp] theorem lastPlace_concat (ps : List Position) (p : Position) :
    lastPlace (ps ++ [p]) = p.place := by
  simp [lastPlace]

theorem le_lastPlace {ps : List Position} (hinc : Increasing ps) {p : Position} (hp : p ∈ ps) :
    p.place ≤ lastPlace ps := by
  rcases List.eq_nil_or_concat ps with rfl | ⟨front, q, rfl⟩
  · cases hp
  · rw [List.concat_eq_append] at *
    rw [lastPlace_concat]
    rcases List.mem_append.mp hp with hp | hp
    · exact Nat.le_of_lt ((List.pairwise_append.mp hinc).2.2 p hp q (List.mem_singleton.mpr rfl))
    · exact Nat.le_of_eq (congrArg Position.place (List.mem_singleton.mp hp))

/-- No place is 0, so only without positions the latest place is. -/
theorem InRange.eq_nil_of_lastPlace {ps : List Position} (h : InRange ps) (h0 : lastPlace ps = 0) :
    ps = [] := by
  rcases List.eq_nil_or_concat ps with rfl | ⟨front, p, rfl⟩
  · rfl
  · rw [List.concat_eq_append] at h h0
    have hpos := (h p (List.mem_append_right _ (List.mem_singleton.mpr rfl))).1
    rw [lastPlace_concat] at h0
    omega

namespace SearchVector

variable {v w : SearchVector} {x : String} {ps qs : List Position}

/-- The greatest of the latest places is counted from the front. It is at most `n` if and only if
each of them is. -/
theorem foldl_max_le_iff (es : List Entry) (m n : Nat) :
    es.foldl (fun m e => max m e.latestPlace) m ≤ n ↔
      m ≤ n ∧ ∀ e ∈ es, lastPlace e.positions ≤ n := by
  induction es generalizing m with
  | nil => simp
  | cons e es ih =>
    rw [List.foldl_cons, ih, List.forall_mem_cons, Nat.max_le, and_assoc]
    rfl

/-- The greatest place is the least bound of the last places. -/
theorem maxPosition_le_iff {n : Nat} :
    v.maxPosition ≤ n ↔ ∀ e ∈ v.entries, lastPlace e.positions ≤ n := by
  rw [maxPosition, foldl_max_le_iff]
  exact and_iff_right (Nat.zero_le n)

theorem lastPlace_le_maxPosition (hx : v.positions? x = some ps) :
    lastPlace ps ≤ v.maxPosition :=
  maxPosition_le_iff.mp (Nat.le_refl _) _ (mem_of_lookup hx)

theorem WellFormed.place_le_maxPosition (hv : v.WellFormed) (hx : v.positions? x = some ps)
    {p : Position} (hp : p ∈ ps) : p.place ≤ v.maxPosition :=
  Nat.le_trans (le_lastPlace (hv.positions hx).increasing hp) (lastPlace_le_maxPosition hx)

/-- In a well-formed vector no position at all is behind the last place, since those of a lexeme
increase. -/
theorem WellFormed.place_le_of_mem (hv : v.WellFormed) {p : Position}
    (hp : p ∈ v.positionsOf x) : p.place ≤ v.maxPosition := by
  rcases hx : v.positions? x with _ | ps
  · rw [positionsOf_eq_nil hx] at hp
    cases hp
  · rw [positionsOf_eq hx] at hp
    exact hv.place_le_maxPosition hx hp

/-! ## What a lexeme has in a concatenation -/

/-- The entries of the second vector with their places moved past those of the first. -/
def moved (v w : SearchVector) : List Entry :=
  w.entries.map fun e => ⟨e.lexeme, settle (e.positions.map (.shift v.maxPosition))⟩

theorem ascending_moved (v : SearchVector) (hw : Ascending w.entries) : Ascending (moved v w) :=
  hw.map fun e => settle (e.positions.map (.shift v.maxPosition))

/-- A concatenation is a merge of the entries of the first vector with the moved ones of the second,
in which neighbours with the same lexeme are joined. -/
theorem entries_concat (v w : SearchVector) :
    (v.concat w).entries =
      gather (fun ps qs => settle (ps ++ qs)) (v.entries.merge (moved v w) Entry.before) :=
  rfl

theorem lookup_moved (v w : SearchVector) (x : String) :
    lookup (moved v w) x =
      (w.positions? x).map fun qs => settle (qs.map (.shift v.maxPosition)) :=
  lookup_map (fun _ qs => settle (qs.map (.shift v.maxPosition))) w.entries x

/-- Of entries in strict byte order, those with a lexeme are one or none. -/
theorem positions_filter_of_ascending {es : List Entry} (h : Ascending es) (x : String) :
    (es.filter (·.lexeme = x)).map Entry.positions = (lookup es x).toList := by
  induction es with
  | nil => rfl
  | cons e es ih =>
    obtain ⟨he, hes⟩ := List.pairwise_cons.mp h
    by_cases hx : e.lexeme = x
    · have hnone : es.filter (·.lexeme = x) = [] := by
        refine List.filter_eq_nil_iff.mpr fun f hf => ?_
        rw [decide_eq_true_eq, ← hx]
        exact (String.ne_of_lt (he f hf)).symm
      simp [lookup_cons, hx, hnone]
    · simp [lookup_cons, hx, ih hes]

theorem ascending_concat (hv : Ascending v.entries) (hw : Ascending w.entries) :
    Ascending (v.concat w).entries := by
  rw [entries_concat]
  exact ascending_gather (inOrder_merge hv.inOrder (ascending_moved v hw).inOrder)

/-- A lexeme of one vector keeps what it has there, moved if that is the second one. A lexeme of
both has the settled positions of both. -/
theorem positions?_concat (hv : Ascending v.entries) (hw : Ascending w.entries) (x : String) :
    (v.concat w).positions? x =
      match v.positions? x, w.positions? x with
      | none, none => none
      | some ps, none => some ps
      | none, some qs => some (settle (qs.map (.shift v.maxPosition)))
      | some ps, some qs => some (settle (ps ++ settle (qs.map (.shift v.maxPosition)))) := by
  have hmoved : Ascending (moved v w) := ascending_moved v hw
  rw [positions?_eq_lookup, entries_concat, lookup_gather (inOrder_merge hv.inOrder hmoved.inOrder),
    filter_merge hv.inOrder hmoved.inOrder, List.map_append,
    positions_filter_of_ascending hv, positions_filter_of_ascending hmoved, lookup_moved,
    ← positions?_eq_lookup]
  rcases v.positions? x with _ | ps <;> rcases w.positions? x with _ | qs <;> rfl

/-- The lexemes of a concatenation are those of both vectors. -/
theorem mem_lexemes_concat (hv : Ascending v.entries) (hw : Ascending w.entries) :
    x ∈ (v.concat w).lexemes ↔ x ∈ v.lexemes ∨ x ∈ w.lexemes := by
  rw [mem_lexemes_iff, mem_lexemes_iff, mem_lexemes_iff, positions?_concat hv hw]
  rcases v.positions? x with _ | ps <;> rcases w.positions? x with _ | qs <;> simp

/-- The lexemes of a concatenation depend on the lexemes of the vectors only, so a vector may be
compacted or stripped before. -/
theorem lexemes_concat_congr {v' : SearchVector} (hv : Ascending v.entries)
    (hv' : Ascending v'.entries) (hw : Ascending w.entries) (h : v.lexemes = v'.lexemes) :
    (v.concat w).lexemes = (v'.concat w).lexemes := by
  refine (lexemes_strictly_sorted (ascending_concat hv hw)).eq_of_mem_iff
    (lexemes_strictly_sorted (ascending_concat hv' hw)) fun x => ?_
  rw [mem_lexemes_concat hv hw, mem_lexemes_concat hv' hw, h]

/-- The concatenation of well-formed vectors is well-formed, even where places leave the range or a
lexeme gets too many positions. -/
theorem WellFormed.concat (hv : v.WellFormed) (hw : w.WellFormed) : (v.concat w).WellFormed := by
  refine wellFormed_of_positions (ascending_concat hv.ascending hw.ascending) fun x rs hx => ?_
  rw [positions?_concat hv.ascending hw.ascending] at hx
  rcases hvx : v.positions? x with _ | ps <;> rcases hwx : w.positions? x with _ | qs <;>
    rw [hvx, hwx] at hx
  · cases hx
  · obtain rfl := Option.some.inj hx
    exact Entry.wellFormed_settle (hw.positions hwx).lexeme_ok (inRange_map_shift _ qs)
  · obtain rfl := Option.some.inj hx
    exact hv.positions hvx
  · obtain rfl := Option.some.inj hx
    refine Entry.wellFormed_settle (hv.positions hvx).lexeme_ok fun p hp => ?_
    rcases List.mem_append.mp hp with hp | hp
    · exact (hv.positions hvx).inRange p hp
    · exact inRange_map_shift _ qs p (mem_of_mem_settle hp)

/-- A lexeme has its positions in the first vector, and then those in the second moved past all of the
first, settled. -/
theorem positionsOf_concat (hv : v.WellFormed) (hw : w.WellFormed) (x : String) :
    (v.concat w).positionsOf x =
      settle (v.positionsOf x ++ settle ((w.positionsOf x).map (.shift v.maxPosition))) := by
  have hboth := positions?_concat hv.ascending hw.ascending x
  have hself : settle (v.positionsOf x) = v.positionsOf x :=
    settle_eq_self (hv.positionsOf_ok x).2.1 (hv.positionsOf_ok x).2.2
  rcases hvx : v.positions? x with _ | ps <;> rcases hwx : w.positions? x with _ | qs <;>
    rw [hvx, hwx] at hboth
  · rw [positionsOf_eq_nil hboth, positionsOf_eq_nil hvx, positionsOf_eq_nil hwx]
    simp
  · rw [positionsOf_eq hboth, positionsOf_eq_nil hvx, positionsOf_eq hwx, List.nil_append,
      settle_eq_self (increasing_settle _) (length_settle_le _)]
  · rw [positionsOf_eq hboth, positionsOf_eq_nil hwx, List.map_nil, settle_nil, List.append_nil,
      hself, positionsOf_eq hvx]
  · rw [positionsOf_eq hboth, positionsOf_eq hvx, positionsOf_eq hwx]

/-! ## Concatenation without losses -/

/-- No place leaves the range and no lexeme gets too many positions when `w` follows `v`. -/
structure Lossless (v w : SearchVector) : Prop where
  /-- no place leaves the range -/
  reach : v.maxPosition + w.maxPosition ≤ maxPlace
  /-- no lexeme gets too many positions -/
  room : ∀ x ps qs, v.positions? x = some ps → w.positions? x = some qs →
    ps.length + qs.length ≤ maxPositions

/-- What a lexeme has in both vectors together, before anything is moved or settled. -/
theorem lookup_gather_merge (hv : Ascending v.entries) (hw : Ascending w.entries) (x : String) :
    lookup (gather (· ++ ·) (v.entries.merge w.entries Entry.before)) x =
      match v.positions? x, w.positions? x with
      | none, none => none
      | some ps, none => some ps
      | none, some qs => some qs
      | some ps, some qs => some (ps ++ qs) := by
  rw [lookup_gather (inOrder_merge hv.inOrder hw.inOrder), filter_merge hv.inOrder hw.inOrder,
    List.map_append, positions_filter_of_ascending hv, positions_filter_of_ascending hw,
    ← positions?_eq_lookup, ← positions?_eq_lookup]
  rcases v.positions? x with _ | ps <;> rcases w.positions? x with _ | qs <;> rfl

/-- `concatIsLossless` decides whether a concatenation is lossless. -/
theorem concatIsLossless_iff (hv : v.WellFormed) (hw : w.WellFormed) :
    v.concatIsLossless w = true ↔ v.Lossless w := by
  have hasc : Ascending (gather (· ++ ·) (v.entries.merge w.entries Entry.before)) :=
    ascending_gather (inOrder_merge hv.ascending.inOrder hw.ascending.inOrder)
  have hlook := lookup_gather_merge hv.ascending hw.ascending
  rw [concatIsLossless, Bool.and_eq_true, decide_eq_true_eq, List.all_eq_true]
  simp only [decide_eq_true_eq]
  constructor
  · rintro ⟨hreach, hroom⟩
    refine ⟨hreach, fun x ps qs hps hqs => ?_⟩
    have hx := hlook x
    rw [hps, hqs] at hx
    have hlen := hroom _ (mem_of_lookup hx)
    rwa [List.length_append] at hlen
  · rintro ⟨hreach, hroom⟩
    refine ⟨hreach, fun e he => ?_⟩
    have hx := hlook e.lexeme
    rw [hasc.lookup_of_mem he] at hx
    rcases hvx : v.positions? e.lexeme with _ | ps <;>
      rcases hwx : w.positions? e.lexeme with _ | qs <;> rw [hvx, hwx] at hx
    · cases hx
    · rw [Option.some.inj hx]
      exact (hw.positions hwx).few
    · rw [Option.some.inj hx]
      exact (hv.positions hvx).few
    · rw [Option.some.inj hx, List.length_append]
      exact hroom _ ps qs hvx hwx

/-- Positions moved by a number of places, wherever they get to. -/
def movedBy (m : Nat) (ps : List Position) : List Position :=
  ps.map fun p => ⟨p.place + m, p.weight⟩

/-- The positions of a lexeme in a vector and then those in another, moved by the greatest place of the
first, none of them cut off, merged or left out. -/
def followed (v w : SearchVector) (x : String) : List Position :=
  v.positionsOf x ++ movedBy v.maxPosition (w.positionsOf x)

/-- While no place leaves the range, a lexeme has as many of its positions as there may be, the latest
left out. -/
theorem positionsOf_concat_of_reach (hreach : v.maxPosition + w.maxPosition ≤ maxPlace)
    (hv : v.WellFormed) (hw : w.WellFormed) (x : String) :
    (v.concat w).positionsOf x = (v.followed w x).take maxPositions := by
  obtain ⟨hrange, hinc, hfew⟩ := hw.positionsOf_ok x
  have hmoved : settle ((w.positionsOf x).map (.shift v.maxPosition)) =
      movedBy v.maxPosition (w.positionsOf x) := by
    refine settle_map_shift hrange hinc hfew fun q hq => ?_
    have hle := hw.place_le_of_mem hq
    omega
  rw [positionsOf_concat hv hw, hmoved, followed]
  refine settle_eq_take (List.pairwise_append.mpr
    ⟨(hv.positionsOf_ok x).2.1, hinc.map _ fun p q hpq => Nat.add_lt_add_right hpq _,
      fun p hp r hr => ?_⟩)
  -- a place of the second vector is at least 1, so it is moved past all of the first
  obtain ⟨q, hq, rfl⟩ := List.mem_map.mp hr
  have hle := hv.place_le_of_mem hp
  have hpos := (hrange q hq).1
  change p.place < q.place + v.maxPosition
  omega

theorem Lossless.length_followed_le (h : v.Lossless w) (hv : v.WellFormed) (hw : w.WellFormed)
    (x : String) : (v.followed w x).length ≤ maxPositions := by
  rw [followed, movedBy, List.length_append, List.length_map]
  rcases hvx : v.positions? x with _ | ps
  · rw [positionsOf_eq_nil hvx, List.length_nil, Nat.zero_add]
    exact (hw.positionsOf_ok x).2.2
  · rcases hwx : w.positions? x with _ | qs
    · rw [positionsOf_eq_nil hwx, List.length_nil, Nat.add_zero]
      exact (hv.positionsOf_ok x).2.2
    · rw [positionsOf_eq hvx, positionsOf_eq hwx]
      exact h.room x ps qs hvx hwx

/-- In a lossless concatenation a lexeme has all its positions. -/
theorem Lossless.positionsOf_concat (h : v.Lossless w) (hv : v.WellFormed) (hw : w.WellFormed)
    (x : String) : (v.concat w).positionsOf x = v.followed w x := by
  rw [positionsOf_concat_of_reach h.reach hv hw,
    List.take_of_length_le (h.length_followed_le hv hw x)]

end SearchVector

end EventIntake
