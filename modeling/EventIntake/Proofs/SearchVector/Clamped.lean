import EventIntake.Proofs.Lists
import EventIntake.Proofs.SearchVector.Positions

/-!
# Places moved into the range

The places of the words of a text have no end, and those beyond the range become its end. Of places in
order `clamped` keeps those before the end of the range, and the end once if any place reaches it.
Moving places into the range twice comes to the same as once, whether others follow
(`clamped_clamped_append`) or all are moved on in between (`clamped_map_add`), and so does leaving out
what is too much (`clamped_take`). So places that are settled part by part are settled as a whole
(`settle_settle_append`), and settled before they are moved on or after (`settle_map_shift_settle`).
-/

namespace EventIntake

/-- Places in order moved into the range, each of them once. -/
def clamped : List Nat → List Nat
  | [] => []
  | n :: ns => if n < maxPlace then n :: clamped ns else [maxPlace]

variable {m n k : Nat} {ms ns : List Nat}

theorem clamped_cons_of_lt (h : n < maxPlace) : clamped (n :: ns) = n :: clamped ns :=
  if_pos h

/-- The first place that is not before the end of the range becomes the end, and whatever comes
after it is the same place again. -/
theorem clamped_cons_of_le (h : maxPlace ≤ n) : clamped (n :: ns) = [maxPlace] :=
  if_neg (Nat.not_lt.mpr h)

/-- Every place in the range stands for one of those that were given, moved to the end of the range
if it was beyond. -/
theorem exists_of_mem_clamped (h : m ∈ clamped ns) : ∃ n ∈ ns, m = min n maxPlace := by
  induction ns with
  | nil => cases h
  | cons n ns ih =>
    rcases Nat.lt_or_ge n maxPlace with hlt | hge
    · rw [clamped_cons_of_lt hlt] at h
      rcases List.mem_cons.mp h with rfl | h
      · exact ⟨m, List.mem_cons_self, (Nat.min_eq_left (Nat.le_of_lt hlt)).symm⟩
      · obtain ⟨k, hk, heq⟩ := ih h
        exact ⟨k, List.mem_cons_of_mem n hk, heq⟩
    · rw [clamped_cons_of_le hge] at h
      refine ⟨n, List.mem_cons_self, ?_⟩
      rw [List.mem_singleton.mp h, Nat.min_eq_right hge]

/-- Places that count from 1 are all in the range after they are moved into it. -/
theorem range_of_mem_clamped (hpos : ∀ n ∈ ns, 1 ≤ n) (h : m ∈ clamped ns) :
    1 ≤ m ∧ m ≤ maxPlace := by
  obtain ⟨n, hn, rfl⟩ := exists_of_mem_clamped h
  exact ⟨Nat.le_min.mpr ⟨hpos n hn, by decide⟩, Nat.min_le_right _ _⟩

/-- Moving places into the range keeps them strictly increasing, since all that meet at the end
become one. -/
theorem pairwise_clamped (h : ns.Pairwise (· < ·)) : (clamped ns).Pairwise (· < ·) := by
  induction ns with
  | nil => exact List.Pairwise.nil
  | cons n ns ih =>
    obtain ⟨hn, hns⟩ := List.pairwise_cons.mp h
    rcases Nat.lt_or_ge n maxPlace with hlt | hge
    · rw [clamped_cons_of_lt hlt]
      refine List.pairwise_cons.mpr ⟨fun m hm => ?_, ih hns⟩
      obtain ⟨k, hk, rfl⟩ := exists_of_mem_clamped hm
      exact Nat.lt_min.mpr ⟨hn k hk, hlt⟩
    · rw [clamped_cons_of_le hge]
      exact List.pairwise_singleton _ _

/-! ## Moving into the range twice -/

/-- Only later places are cut off with a limit, so it does not matter whether the limit comes before
or after the places are moved into the range. -/
theorem clamped_take (ns : List Nat) (k : Nat) : clamped (ns.take k) = (clamped ns).take k := by
  induction ns generalizing k with
  | nil => rw [List.take_nil, clamped, List.take_nil]
  | cons n ns ih =>
    cases k with
    | zero => rfl
    | succ k =>
      rw [List.take_succ_cons]
      rcases Nat.lt_or_ge n maxPlace with hlt | hge
      · rw [clamped_cons_of_lt hlt, clamped_cons_of_lt hlt, List.take_succ_cons, ih]
      · rw [clamped_cons_of_le hge, clamped_cons_of_le hge, List.take_succ_cons, List.take_nil]

/-- Places that have been moved into the range are left alone when they are moved again. -/
theorem clamped_clamped (ns : List Nat) : clamped (clamped ns) = clamped ns := by
  induction ns with
  | nil => rfl
  | cons n ns ih =>
    rcases Nat.lt_or_ge n maxPlace with hlt | hge
    · rw [clamped_cons_of_lt hlt, clamped_cons_of_lt hlt, ih]
    · rw [clamped_cons_of_le hge, clamped_cons_of_le (Nat.le_refl _)]

/-- Places that others follow may be moved into the range before, and so may the others. -/
theorem clamped_clamped_append (ms ns : List Nat) :
    clamped (clamped ms ++ clamped ns) = clamped (ms ++ ns) := by
  induction ms with
  | nil => exact clamped_clamped ns
  | cons m ms ih =>
    rw [List.cons_append]
    rcases Nat.lt_or_ge m maxPlace with hlt | hge
    · rw [clamped_cons_of_lt hlt, clamped_cons_of_lt hlt, List.cons_append,
        clamped_cons_of_lt hlt, ih]
    · rw [clamped_cons_of_le hge, clamped_cons_of_le hge, List.cons_append,
        clamped_cons_of_le (Nat.le_refl _)]

/-- Places that are moved on may be moved into the range before, and moved on no further than the
range goes. -/
theorem clamped_map_add (ns : List Nat) (k : Nat) :
    clamped ((clamped ns).map (· + min k maxPlace)) = clamped (ns.map (· + k)) := by
  induction ns with
  | nil => rfl
  | cons n ns ih =>
    rw [List.map_cons]
    rcases Nat.lt_or_ge (n + k) maxPlace with hlt | hge
    · have hk : min k maxPlace = k := Nat.min_eq_left (by omega)
      rw [hk] at ih ⊢
      rw [clamped_cons_of_lt (by omega), List.map_cons, clamped_cons_of_lt hlt,
        clamped_cons_of_lt hlt, ih]
    · rw [clamped_cons_of_le hge]
      rcases Nat.lt_or_ge n maxPlace with hn | hn
      · rw [clamped_cons_of_lt hn, List.map_cons, clamped_cons_of_le (by omega)]
      · rw [clamped_cons_of_le hn, List.map_cons, clamped_cons_of_le (Nat.le_add_right _ _)]

/-! ## Positions at places -/

/-- The positions at some places, moved into the range. -/
def placed (ns : List Nat) : List Position :=
  ns.map fun n => .ofPlace n .d

theorem placed_append (ms ns : List Nat) : placed (ms ++ ns) = placed ms ++ placed ns :=
  List.map_append

/-- The places are strictly increasing up to the end of the range. -/
abbrev Rising (ns : List Nat) : Prop :=
  ns.Pairwise fun m n => m < n ∨ maxPlace ≤ m ∧ maxPlace ≤ n

theorem place_ofPlace_of_pos (h : 1 ≤ n) (w : Weight) :
    (Position.ofPlace n w).place = min n maxPlace := by
  rw [Position.ofPlace, Nat.max_eq_left h]

/-- Positions of one weight at rising places are thinned out to the places in the range: those that
meet at its end become one. -/
theorem firstAtEachPlace_placed (hpos : ∀ n ∈ ns, 1 ≤ n) (h : Rising ns) :
    firstAtEachPlace (placed ns) = placed (clamped ns) := by
  induction ns with
  | nil => rfl
  | cons n ns ih =>
    obtain ⟨hn, hns⟩ := List.pairwise_cons.mp h
    obtain ⟨hn1, hpos⟩ := List.forall_mem_cons.mp hpos
    have hcons : placed (n :: ns) = .ofPlace n .d :: placed ns := rfl
    rw [hcons, firstAtEachPlace_cons, ih hpos hns]
    rcases Nat.lt_or_ge n maxPlace with hlt | hge
    · rw [clamped_cons_of_lt hlt]
      rcases hk : clamped ns with _ | ⟨m, ms⟩
      · rfl
      · -- the next place is after this one, moved into the range or not
        have hm : m ∈ clamped ns := hk ▸ List.mem_cons_self
        obtain ⟨k, hmem, rfl⟩ := exists_of_mem_clamped hm
        have hnk := hn k hmem
        have hk1 := hpos k hmem
        have hne : (Position.ofPlace n .d).place ≠ (Position.ofPlace (min k maxPlace) .d).place := by
          rw [place_ofPlace_of_pos hn1, place_ofPlace_of_pos (by simp only [maxPlace]; omega)]
          omega
        exact if_neg hne
    · rw [clamped_cons_of_le hge]
      have hend : Position.ofPlace n .d = .ofPlace maxPlace .d := by
        rw [Position.ofPlace, Position.ofPlace, Nat.max_eq_left hn1, Nat.min_eq_right hge]
        rfl
      cases ns with
      | nil => rw [hend]; rfl
      | cons k ns =>
        -- all places that follow are the end of the range too
        have hk : maxPlace ≤ k := by
          have hnk := hn k List.mem_cons_self
          omega
        rw [clamped_cons_of_le hk, hend]
        exact if_pos rfl

/-- At rising places positions of one weight are in the order in which they would be sorted, so
settling them does not have to move any. -/
theorem pairwise_before_placed (h : Rising ns) :
    (placed ns).Pairwise fun p q => p.before q = true := by
  refine List.Pairwise.map _ (fun m n hmn => ?_) h
  rw [Position.before_iff]
  simp only [Position.ofPlace]
  omega

/-- Of places in order, those before the end of the range are kept, and the end once, as many as there
may be. -/
theorem settle_placed (hpos : ∀ n ∈ ns, 1 ≤ n) (h : Rising ns) :
    settle (placed ns) = placed ((clamped ns).take maxPositions) := by
  rw [settle, List.mergeSort_of_pairwise (pairwise_before_placed h),
    firstAtEachPlace_placed hpos h, placed, placed, List.map_take]

theorem forall_mem_map_add (hpos : ∀ n ∈ ns, 1 ≤ n) (k : Nat) : ∀ n ∈ ns.map (· + k), 1 ≤ n :=
  List.forall_mem_map.mpr fun n hn => Nat.le_trans (hpos n hn) (Nat.le_add_right _ _)

theorem pairwise_map_add (h : ns.Pairwise (· < ·)) (k : Nat) :
    (ns.map (· + k)).Pairwise (· < ·) :=
  h.map _ fun _ _ hlt => Nat.add_lt_add_right hlt k

/-- To shift positions of one weight is to add to their places before they are
moved into the range. -/
theorem map_shift_placed (hns : ∀ n ∈ ns, 1 ≤ n ∧ n ≤ maxPlace) (m : Nat) :
    (placed ns).map (.shift m) = placed (ns.map (· + m)) := by
  rw [placed, placed, List.map_map, List.map_map]
  refine List.map_congr_left fun n hn => ?_
  obtain ⟨h1, h2⟩ := hns n hn
  simp only [Function.comp_apply, Position.shift, Position.ofPlace_eq h1 h2]

/-! ## Settling part by part -/

/-- Places that are settled and then moved on might have been moved on before, and no further than the
range goes. -/
theorem settle_map_shift_settle (hpos : ∀ n ∈ ns, 1 ≤ n) (h : ns.Pairwise (· < ·)) (k : Nat) :
    settle ((settle (placed ns)).map (.shift (min k maxPlace))) =
      settle (placed (ns.map (· + k))) := by
  have hrange : ∀ m ∈ (clamped ns).take maxPositions, 1 ≤ m ∧ m ≤ maxPlace :=
    fun m hm => range_of_mem_clamped hpos (List.mem_of_mem_take hm)
  have hkept : (((clamped ns).take maxPositions).map (· + min k maxPlace)).Pairwise (· < ·) :=
    pairwise_map_add ((pairwise_clamped h).sublist (List.take_sublist _ _)) _
  rw [settle_placed hpos (h.imp Or.inl), map_shift_placed hrange,
    settle_placed (forall_mem_map_add (fun m hm => (hrange m hm).1) _) (hkept.imp Or.inl),
    settle_placed (forall_mem_map_add hpos k) ((pairwise_map_add h k).imp Or.inl),
    List.map_take, clamped_take, clamped_map_add, List.take_take, Nat.min_self]

/-- Places in order are settled as a whole when they are settled part by part. -/
theorem settle_settle_append (hpos : ∀ n ∈ ms ++ ns, 1 ≤ n) (h : (ms ++ ns).Pairwise (· < ·)) :
    settle (settle (placed ms) ++ settle (placed ns)) = settle (placed (ms ++ ns)) := by
  obtain ⟨hms1, hns1⟩ := List.forall_mem_append.mp hpos
  obtain ⟨hms, hns, hcross⟩ := List.pairwise_append.mp h
  have hsub : ((clamped ms).take maxPositions ++ (clamped ns).take maxPositions).Sublist
      (clamped ms ++ clamped ns) :=
    (List.take_sublist _ _).append (List.take_sublist _ _)
  have hparts1 : ∀ m ∈ clamped ms ++ clamped ns, 1 ≤ m :=
    List.forall_mem_append.mpr ⟨fun m hm => (range_of_mem_clamped hms1 hm).1,
      fun n hn => (range_of_mem_clamped hns1 hn).1⟩
  have hparts : Rising (clamped ms ++ clamped ns) := by
    refine List.pairwise_append.mpr ⟨(pairwise_clamped hms).imp Or.inl,
      (pairwise_clamped hns).imp Or.inl, fun m hm n hn => ?_⟩
    obtain ⟨k, hk, rfl⟩ := exists_of_mem_clamped hm
    obtain ⟨l, hl, rfl⟩ := exists_of_mem_clamped hn
    have hlt := hcross k hk l hl
    omega
  rw [settle_placed hms1 (hms.imp Or.inl), settle_placed hns1 (hns.imp Or.inl), ← placed_append,
    settle_placed (fun m hm => hparts1 m (hsub.mem hm)) (hparts.sublist hsub),
    settle_placed hpos (h.imp Or.inl), ← clamped_take, take_append_take, clamped_take,
    clamped_clamped_append]

end EventIntake
