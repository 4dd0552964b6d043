import EventIntake.SearchVector.Basic

/-!
# Positions of a lexeme

The positions of a lexeme are kept in strictly increasing order of their places, and no more of them
than the limit. `settle` brings any list of positions into this form (`increasing_settle`,
`length_settle_le`) without inventing a position (`mem_of_mem_settle`), and leaves alone a list that
has it already (`settle_eq_self`). A place gets lost only if there are too many positions
(`exists_mem_settle`). Shifting keeps a list in this form as long as no place leaves the range
(`map_shift`).
-/

namespace EventIntake

/-- The places are strictly increasing. -/
abbrev Increasing (ps : List Position) : Prop :=
  ps.Pairwise fun p q => p.place < q.place

/-- All places are in the range of places. -/
abbrev InRange (ps : List Position) : Prop :=
  ∀ p ∈ ps, 1 ≤ p.place ∧ p.place ≤ maxPlace

namespace Position

/-! ## The order of positions -/

/-- Positions are sorted by place, and at one place the strongest weight comes first. -/
theorem before_iff {p q : Position} :
    p.before q = true ↔
      p.place < q.place ∨ p.place = q.place ∧ p.weight.rank ≤ q.weight.rank := by
  simp [before]

theorem before_trans (p q r : Position) (hpq : p.before q = true) (hqr : q.before r = true) :
    p.before r = true := by
  rw [before_iff] at *
  omega

theorem before_total (p q : Position) : (p.before q || q.before p) = true := by
  rw [Bool.or_eq_true, before_iff, before_iff]
  omega

theorem place_le_of_before {p q : Position} (h : p.before q = true) : p.place ≤ q.place := by
  rw [before_iff] at h
  omega

/-- Every position that is made from a place is in the range. -/
theorem place_ofPlace (n : Nat) (w : Weight) :
    1 ≤ (ofPlace n w).place ∧ (ofPlace n w).place ≤ maxPlace := by
  simp only [ofPlace, maxPlace]
  omega

/-- A place in the range of places is not moved. Only the place zero and places beyond the greatest
one are. -/
theorem ofPlace_eq {n : Nat} {w : Weight} (h1 : 1 ≤ n) (h2 : n ≤ maxPlace) :
    ofPlace n w = ⟨n, w⟩ := by
  rw [ofPlace, Nat.max_eq_left h1, Nat.min_eq_left h2]

end Position

/-! ## One position for each place -/

theorem firstAtEachPlace_cons (p : Position) (ps : List Position) :
    firstAtEachPlace (p :: ps) =
      match firstAtEachPlace ps with
      | [] => [p]
      | q :: rest => if p.place = q.place then p :: rest else p :: q :: rest :=
  rfl

theorem firstAtEachPlace_sublist (ps : List Position) : (firstAtEachPlace ps).Sublist ps := by
  induction ps with
  | nil => exact List.Sublist.slnil
  | cons p ps ih =>
    rw [firstAtEachPlace_cons]
    rcases hk : firstAtEachPlace ps with _ | ⟨q, rest⟩
    · exact List.Sublist.cons_cons p (List.nil_sublist ps)
    · rw [hk] at ih
      by_cases hpq : p.place = q.place
      · simp only [if_pos hpq]
        exact List.Sublist.cons_cons p ((List.sublist_cons_self q rest).trans ih)
      · simp only [if_neg hpq]
        exact List.Sublist.cons_cons p ih

theorem increasing_firstAtEachPlace {ps : List Position}
    (h : ps.Pairwise fun p q => p.place ≤ q.place) : Increasing (firstAtEachPlace ps) := by
  induction ps with
  | nil => exact List.Pairwise.nil
  | cons p ps ih =>
    obtain ⟨hp, hps⟩ := List.pairwise_cons.mp h
    have hinc : Increasing (firstAtEachPlace ps) := ih hps
    have hle : ∀ r ∈ firstAtEachPlace ps, p.place ≤ r.place :=
      fun r hr => hp r ((firstAtEachPlace_sublist ps).mem hr)
    rw [firstAtEachPlace_cons]
    rcases hk : firstAtEachPlace ps with _ | ⟨q, rest⟩
    · exact List.pairwise_singleton _ p
    · rw [hk] at hinc hle
      obtain ⟨hq, hrest⟩ := List.pairwise_cons.mp hinc
      have hpq : p.place ≤ q.place := hle q List.mem_cons_self
      by_cases heq : p.place = q.place
      · simp only [if_pos heq]
        exact List.pairwise_cons.mpr ⟨fun r hr => heq ▸ hq r hr, hrest⟩
      · simp only [if_neg heq]
        refine List.pairwise_cons.mpr ⟨fun r hr => ?_, hinc⟩
        have hlt : p.place < q.place := by omega
        rcases List.mem_cons.mp hr with rfl | hr
        · exact hlt
        · exact Nat.lt_trans hlt (hq r hr)

theorem firstAtEachPlace_eq_self {ps : List Position} (h : Increasing ps) :
    firstAtEachPlace ps = ps := by
  induction ps with
  | nil => rfl
  | cons p ps ih =>
    obtain ⟨hp, hps⟩ := List.pairwise_cons.mp h
    rw [firstAtEachPlace_cons, ih hps]
    cases ps with
    | nil => rfl
    | cons q rest => exact if_neg (Nat.ne_of_lt (hp q List.mem_cons_self))

/-- No place gets lost. -/
theorem exists_mem_firstAtEachPlace {p : Position} {ps : List Position} (hp : p ∈ ps) :
    ∃ q ∈ firstAtEachPlace ps, q.place = p.place := by
  induction ps with
  | nil => cases hp
  | cons r ps ih =>
    rw [firstAtEachPlace_cons]
    rcases List.mem_cons.mp hp with rfl | hp
    · -- the first position always stays
      rcases firstAtEachPlace ps with _ | ⟨q, rest⟩
      · exact ⟨p, List.mem_cons_self, rfl⟩
      · by_cases hpq : p.place = q.place <;> simp [hpq]
    · obtain ⟨t, ht, hplace⟩ := ih hp
      rcases hk : firstAtEachPlace ps with _ | ⟨q, rest⟩
      · rw [hk] at ht
        cases ht
      · rw [hk] at ht
        by_cases hrq : r.place = q.place
        · simp only [if_pos hrq]
          rcases List.mem_cons.mp ht with rfl | ht
          · exact ⟨r, List.mem_cons_self, hrq.trans hplace⟩
          · exact ⟨t, List.mem_cons_of_mem r ht, hplace⟩
        · simp only [if_neg hrq]
          exact ⟨t, List.mem_cons_of_mem r ht, hplace⟩

/-! ## Settled positions -/

/-- Whatever list is settled, the places strictly increase afterwards. -/
theorem increasing_settle (ps : List Position) : Increasing (settle ps) := by
  have hsorted : (ps.mergeSort Position.before).Pairwise fun p q => p.place ≤ q.place :=
    (List.pairwise_mergeSort Position.before_trans Position.before_total ps).imp
      Position.place_le_of_before
  exact (increasing_firstAtEachPlace hsorted).sublist (List.take_sublist _ _)

/-- Whatever list is settled, no more positions are left than a lexeme may have. -/
theorem length_settle_le (ps : List Position) : (settle ps).length ≤ maxPositions :=
  List.length_take_le _ _

/-- Settling adds nothing and changes no weight: every position that is left was there before. -/
theorem mem_of_mem_settle {p : Position} {ps : List Position} (h : p ∈ settle ps) : p ∈ ps :=
  List.mem_mergeSort.mp ((firstAtEachPlace_sublist _).mem (List.mem_of_mem_take h))

theorem length_settle_le_length (ps : List Position) : (settle ps).length ≤ ps.length := by
  have hfirst := (firstAtEachPlace_sublist (ps.mergeSort Position.before)).length_le
  rw [List.length_mergeSort] at hfirst
  exact Nat.le_trans (List.length_take_le' _ _) hfirst

/-- While there are not too many positions, no place gets lost. -/
theorem exists_mem_settle {p : Position} {ps : List Position} (hlen : ps.length ≤ maxPositions)
    (hp : p ∈ ps) : ∃ q ∈ settle ps, q.place = p.place := by
  have hfirst := (firstAtEachPlace_sublist (ps.mergeSort Position.before)).length_le
  rw [List.length_mergeSort] at hfirst
  rw [settle, List.take_of_length_le (Nat.le_trans hfirst hlen)]
  exact exists_mem_firstAtEachPlace (List.mem_mergeSort.mpr hp)

/-- The limit is not zero, so a lexeme that has positions does not lose all of them. -/
theorem settle_ne_nil {ps : List Position} (h : ps ≠ []) : settle ps ≠ [] := by
  obtain ⟨p, hp⟩ := List.exists_mem_of_ne_nil ps h
  have hsorted : p ∈ ps.mergeSort Position.before := List.mem_mergeSort.mpr hp
  obtain ⟨q, hq, -⟩ := exists_mem_firstAtEachPlace hsorted
  intro hnil
  rcases List.take_eq_nil_iff.mp hnil with hzero | hempty
  · cases hzero
  · rw [hempty] at hq
    cases hq

/-- Of a list that is strictly increasing, as many positions are kept as there may be. -/
theorem settle_eq_take {ps : List Position} (hinc : Increasing ps) :
    settle ps = ps.take maxPositions := by
  have hsort : ps.mergeSort Position.before = ps :=
    List.mergeSort_of_pairwise (hinc.imp fun h => Position.before_iff.mpr (Or.inl h))
  rw [settle, hsort, firstAtEachPlace_eq_self hinc]

/-- A list that is strictly increasing and not too long is settled. -/
theorem settle_eq_self {ps : List Position} (hinc : Increasing ps)
    (hlen : ps.length ≤ maxPositions) : settle ps = ps := by
  rw [settle_eq_take hinc, List.take_of_length_le hlen]

@[simp] theorem settle_nil : settle [] = [] :=
  settle_eq_self List.Pairwise.nil (Nat.zero_le _)

/-! ## Shifted positions -/

/-- A shift moves no place out of the range, since one that would leave it is moved to its end. -/
theorem inRange_map_shift (m : Nat) (ps : List Position) : InRange (ps.map (Position.shift m)) := by
  intro p hp
  obtain ⟨q, -, rfl⟩ := List.mem_map.mp hp
  exact Position.place_ofPlace _ _

/-- A shift moves a place by no more than the shift, and by less only at the end of the range. -/
theorem place_shift_le {m : Nat} {p : Position} (hp : 1 ≤ p.place) :
    (p.shift m).place ≤ p.place + m := by
  simp only [Position.shift, Position.ofPlace]
  omega

theorem min_le_place_shift (m : Nat) (p : Position) :
    min (p.place + m) maxPlace ≤ (p.shift m).place := by
  simp only [Position.shift, Position.ofPlace]
  omega

/-- As long as there are places left, shifting moves every position past the given place. -/
theorem lt_place_shift {m : Nat} {p : Position} (hp : 1 ≤ p.place) (hm : m < maxPlace) :
    m < (p.shift m).place := by
  have hmin := min_le_place_shift m p
  omega

/-- As long as there are places left, shifted positions come after those up to the given place, and
as many are kept as there may be. -/
theorem settle_append_shift {m : Nat} {ps qs : List Position} (hps : Increasing ps)
    (hle : ∀ p ∈ ps, p.place ≤ m) (hqs : InRange qs) (hm : m < maxPlace) :
    settle (ps ++ settle (qs.map (.shift m))) =
      (ps ++ settle (qs.map (.shift m))).take maxPositions := by
  refine settle_eq_take (List.pairwise_append.mpr ⟨hps, increasing_settle _, fun p hp r hr => ?_⟩)
  obtain ⟨q, hq, rfl⟩ := List.mem_map.mp (mem_of_mem_settle hr)
  exact Nat.lt_of_le_of_lt (hle p hp) (lt_place_shift (hqs q hq).1 hm)

/-- While no place leaves the range, shifting is addition. -/
theorem map_shift {m : Nat} {ps : List Position} (hrange : InRange ps)
    (hfit : ∀ p ∈ ps, p.place + m ≤ maxPlace) :
    ps.map (Position.shift m) = ps.map fun p => ⟨p.place + m, p.weight⟩ := by
  refine List.map_congr_left fun p hp => ?_
  have h1 : 1 ≤ p.place := (hrange p hp).1
  exact Position.ofPlace_eq (by omega) (hfit p hp)

/-- While no place leaves the range, a settled list stays settled when it is shifted. -/
theorem settle_map_shift {m : Nat} {ps : List Position} (hrange : InRange ps)
    (hinc : Increasing ps) (hlen : ps.length ≤ maxPositions)
    (hfit : ∀ p ∈ ps, p.place + m ≤ maxPlace) :
    settle (ps.map (Position.shift m)) = ps.map fun p => ⟨p.place + m, p.weight⟩ := by
  rw [map_shift hrange hfit]
  refine settle_eq_self ?_ (by rw [List.length_map]; exact hlen)
  exact hinc.map _ fun p q hpq => Nat.add_lt_add_right hpq m

end EventIntake
