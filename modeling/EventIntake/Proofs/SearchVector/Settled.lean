import EventIntake.Proofs.SearchVector.Positions

/-!
# What settling keeps

Of all positions at a place the strongest is kept (`mem_onePerPlace_iff`), and of the places the first
ones, as many as there may be. So what settling gives depends on which positions there are, and neither
on their order nor on how often they come (`settle_congr`). Positions may be settled before others come,
any number of times: what was left out would have been left out in the end (`settle_append_left`).
-/

namespace EventIntake

/-- The positions in order, the strongest at each place. -/
def onePerPlace (ps : List Position) : List Position :=
  firstAtEachPlace (ps.mergeSort Position.before)

/-- The position is one of those given, and no stronger one of them is at its place. -/
def StrongestIn (ps : List Position) (p : Position) : Prop :=
  p ∈ ps ∧ ∀ q ∈ ps, q.place = p.place → p.weight.rank ≤ q.weight.rank

variable {p q : Position} {ps qs : List Position} {n t : Nat}

/-- Settling is in two steps: one position is chosen at each place, and then the limit cuts off the
latest ones. Only the first step depends on weights. -/
theorem settle_eq (ps : List Position) : settle ps = (onePerPlace ps).take maxPositions :=
  rfl

/-! ## Increasing places -/

theorem Weight.rank_inj {v w : Weight} (h : v.rank = w.rank) : v = w := by
  cases v <;> cases w <;> first | rfl | cases h

theorem Position.eq_of_rank (hplace : p.place = q.place) (hrank : p.weight.rank = q.weight.rank) :
    p = q := by
  cases p
  cases q
  obtain rfl : _ = _ := hplace
  obtain rfl := Weight.rank_inj hrank
  rfl

/-- Positions in strict order are determined by which they are. -/
theorem Increasing.ext (hps : Increasing ps) (hqs : Increasing qs) (h : ∀ p, p ∈ ps ↔ p ∈ qs) :
    ps = qs := by
  have hne {l : List Position} (hl : Increasing l) : l.Nodup :=
    hl.imp fun hlt heq => Nat.ne_of_lt hlt (congrArg Position.place heq)
  have hperm : ps.Perm qs := (List.perm_ext_iff_of_nodup (hne hps) (hne hqs)).mpr h
  refine hperm.eq_of_pairwise (fun a b _ _ hab hba => ?_) hps hqs
  exact absurd hba (Nat.lt_asymm hab)

/-- Positions in strict order at one place are the same. -/
theorem Increasing.eq_of_place (h : Increasing ps) (hp : p ∈ ps) (hq : q ∈ ps)
    (hplace : p.place = q.place) : p = q := by
  induction ps with
  | nil => cases hp
  | cons r ps ih =>
    obtain ⟨hr, hps⟩ := List.pairwise_cons.mp h
    rcases List.mem_cons.mp hp with rfl | hp'
    · rcases List.mem_cons.mp hq with rfl | hq'
      · rfl
      · exact absurd hplace (Nat.ne_of_lt (hr q hq'))
    · rcases List.mem_cons.mp hq with rfl | hq'
      · exact absurd hplace.symm (Nat.ne_of_lt (hr p hp'))
      · exact ih hps hp' hq'

/-- If enough positions come before a place, those that come later do not matter. -/
theorem Increasing.take_filter (h : Increasing ps)
    (hcount : n ≤ (ps.filter (·.place < t)).length) :
    (ps.filter (·.place < t)).take n = ps.take n := by
  induction ps generalizing n with
  | nil => rfl
  | cons p ps ih =>
    obtain ⟨hp, hps⟩ := List.pairwise_cons.mp h
    by_cases hlt : p.place < t
    · rw [List.filter_cons_of_pos (by simpa using hlt)] at hcount ⊢
      cases n with
      | zero => rfl
      | succ n =>
        rw [List.take_succ_cons, List.take_succ_cons, ih hps (Nat.le_of_succ_le_succ hcount)]
    · -- nothing comes before the place
      have hnone : (p :: ps).filter (·.place < t) = [] := by
        simp only [List.filter_eq_nil_iff, List.mem_cons, decide_eq_true_eq]
        rintro q (rfl | hq)
        · exact hlt
        · have := hp q hq
          omega
      rw [hnone] at hcount ⊢
      obtain rfl : n = 0 := Nat.le_zero.mp hcount
      rfl

/-- If not all positions are taken, they are taken up to some place. -/
theorem Increasing.exists_take_eq (h : Increasing ps) (hn : n < ps.length) :
    ∃ t, ps.take n = ps.filter (·.place < t) := by
  rcases hdrop : ps.drop n with _ | ⟨q, rest⟩
  · have hlen := List.drop_eq_nil_iff.mp hdrop
    omega
  · refine ⟨q.place, ?_⟩
    have hsplit : ps = ps.take n ++ q :: rest := by rw [← hdrop, List.take_append_drop]
    rw [hsplit] at h
    obtain ⟨-, htail, hcross⟩ := List.pairwise_append.mp h
    have hbefore : (ps.take n).filter (·.place < q.place) = ps.take n := by
      rw [List.filter_eq_self]
      intro p hp
      simpa using hcross p hp q List.mem_cons_self
    have hafter : (q :: rest).filter (·.place < q.place) = [] := by
      simp only [List.filter_eq_nil_iff, List.mem_cons, decide_eq_true_eq, Nat.not_lt]
      rintro r (rfl | hr)
      · exact Nat.le_refl _
      · exact Nat.le_of_lt ((List.pairwise_cons.mp htail).1 r hr)
    calc ps.take n
        = (ps.take n).filter (·.place < q.place) ++ (q :: rest).filter (·.place < q.place) := by
          rw [hbefore, hafter, List.append_nil]
      _ = ps.filter (·.place < q.place) := by rw [← List.filter_append, ← hsplit]

/-! ## The strongest at each place -/

theorem pairwise_mergeSort_before (ps : List Position) :
    (ps.mergeSort Position.before).Pairwise fun p q => p.before q = true :=
  List.pairwise_mergeSort Position.before_trans Position.before_total ps

theorem increasing_onePerPlace (ps : List Position) : Increasing (onePerPlace ps) :=
  increasing_firstAtEachPlace ((pairwise_mergeSort_before ps).imp Position.place_le_of_before)

/-- Of neighbours in order, the first stands before all others at its place. -/
theorem before_of_mem_firstAtEachPlace (h : ps.Pairwise fun p q => p.before q = true)
    (hp : p ∈ firstAtEachPlace ps) (hq : q ∈ ps) (hplace : q.place = p.place) :
    p.weight.rank ≤ q.weight.rank := by
  induction ps with
  | nil => cases hq
  | cons r ps ih =>
    obtain ⟨hr, hps⟩ := List.pairwise_cons.mp h
    have hinc : Increasing (firstAtEachPlace (r :: ps)) :=
      increasing_firstAtEachPlace (h.imp Position.place_le_of_before)
    have hfirst : r ∈ firstAtEachPlace (r :: ps) := by
      rw [firstAtEachPlace_cons]
      rcases firstAtEachPlace ps with _ | ⟨f, rest⟩
      · exact List.mem_cons_self
      · by_cases hrf : r.place = f.place <;> simp [hrf]
    by_cases hpr : p.place = r.place
    · -- at the place of the first one, that one is kept
      obtain rfl : p = r := hinc.eq_of_place hp hfirst hpr
      rcases List.mem_cons.mp hq with rfl | hq'
      · exact Nat.le_refl _
      · have hbefore := Position.before_iff.mp (hr q hq')
        omega
    · have hp' : p ∈ firstAtEachPlace ps := by
        rw [firstAtEachPlace_cons] at hp
        rcases hk : firstAtEachPlace ps with _ | ⟨f, rest⟩
        · rw [hk] at hp
          exact absurd (congrArg Position.place (List.mem_singleton.mp hp)) hpr
        · rw [hk] at hp
          by_cases hrf : r.place = f.place
          · simp only [if_pos hrf] at hp
            rcases List.mem_cons.mp hp with rfl | hp
            · exact absurd rfl hpr
            · exact List.mem_cons_of_mem f hp
          · simp only [if_neg hrf] at hp
            rcases List.mem_cons.mp hp with rfl | hp
            · exact absurd rfl hpr
            · exact hp
      rcases List.mem_cons.mp hq with rfl | hq'
      · exact absurd hplace.symm hpr
      · exact ih hps hp' hq'

/-- The strongest position at each place is kept, and no other. From here on settled positions are
compared by this and not by how they are sorted. -/
theorem mem_onePerPlace_iff : p ∈ onePerPlace ps ↔ StrongestIn ps p := by
  have hstrong {r : Position} (hr : r ∈ onePerPlace ps) : StrongestIn ps r := by
    refine ⟨List.mem_mergeSort.mp ((firstAtEachPlace_sublist _).mem hr), ?_⟩
    intro q hq hplace
    exact before_of_mem_firstAtEachPlace (pairwise_mergeSort_before ps) hr
      (List.mem_mergeSort.mpr hq) hplace
  constructor
  · exact hstrong
  · rintro ⟨hp, hle⟩
    obtain ⟨r, hr, hplace⟩ := exists_mem_firstAtEachPlace
      (List.mem_mergeSort.mpr hp : p ∈ ps.mergeSort Position.before)
    obtain ⟨hrps, hrle⟩ := hstrong hr
    have hrank : r.weight.rank = p.weight.rank :=
      Nat.le_antisymm (hrle p hp hplace.symm) (hle r hrps hplace)
    rwa [← Position.eq_of_rank hplace hrank]

/-- No place is lost before the limit is applied. -/
theorem exists_mem_onePerPlace (hp : p ∈ ps) : ∃ q ∈ onePerPlace ps, q.place = p.place :=
  exists_mem_firstAtEachPlace (List.mem_mergeSort.mpr hp)

/-- Positions in strict order that are the strongest at each place are all that is kept. -/
theorem Increasing.eq_onePerPlace (hqs : Increasing qs) (h : ∀ p, p ∈ qs ↔ StrongestIn ps p) :
    qs = onePerPlace ps :=
  hqs.ext (increasing_onePerPlace ps) fun p => (h p).trans mem_onePerPlace_iff.symm

theorem StrongestIn.congr (h : ∀ q, q ∈ ps ↔ q ∈ qs) : StrongestIn ps p ↔ StrongestIn qs p := by
  simp only [StrongestIn, h]

/-- What is left depends on which positions there are, not on their order or on how
often one comes. -/
theorem onePerPlace_congr (h : ∀ p, p ∈ ps ↔ p ∈ qs) : onePerPlace ps = onePerPlace qs := by
  refine (increasing_onePerPlace ps).eq_onePerPlace fun p => ?_
  rw [mem_onePerPlace_iff, StrongestIn.congr h]

/-- A position that is alone at its place is the strongest there. -/
theorem Increasing.strongestIn (h : Increasing ps) (hp : p ∈ ps) : StrongestIn ps p := by
  refine ⟨hp, ?_⟩
  intro q hq hplace
  exact Nat.le_of_eq (by rw [h.eq_of_place hp hq hplace.symm])

/-- Which positions come before a place does not depend on those that come later. -/
theorem filter_onePerPlace (ps : List Position) (t : Nat) :
    (onePerPlace ps).filter (·.place < t) = onePerPlace (ps.filter (·.place < t)) := by
  have hinc : Increasing ((onePerPlace ps).filter (·.place < t)) :=
    (increasing_onePerPlace ps).filter _
  refine hinc.eq_onePerPlace fun p => ?_
  simp only [List.mem_filter, mem_onePerPlace_iff, StrongestIn, decide_eq_true_eq]
  constructor
  · rintro ⟨⟨hp, hle⟩, hlt⟩
    exact ⟨⟨hp, hlt⟩, fun q hq hplace => hle q hq.1 hplace⟩
  · rintro ⟨⟨hp, hlt⟩, hle⟩
    refine ⟨⟨hp, fun q hq hplace => ?_⟩, hlt⟩
    exact hle q ⟨hq, hplace ▸ hlt⟩ hplace

/-- Others may come after the strongest have been found. -/
theorem onePerPlace_append (ps qs : List Position) :
    onePerPlace (onePerPlace ps ++ qs) = onePerPlace (ps ++ qs) := by
  refine (increasing_onePerPlace _).eq_onePerPlace fun p => ?_
  rw [mem_onePerPlace_iff]
  simp only [StrongestIn, List.mem_append, mem_onePerPlace_iff]
  constructor
  · rintro ⟨hp, hle⟩
    refine ⟨hp.imp_left And.left, fun q hq hplace => ?_⟩
    rcases hq with hq | hq
    · -- the strongest at the place is at least as strong
      obtain ⟨r, hr, hrq⟩ := exists_mem_onePerPlace hq
      obtain ⟨hrps, hrle⟩ := mem_onePerPlace_iff.mp hr
      have hpr := hle r (Or.inl ⟨hrps, hrle⟩) (hrq.trans hplace)
      have hrq' := hrle q hq hrq.symm
      omega
    · exact hle q (Or.inr hq) hplace
  · rintro ⟨hp, hle⟩
    refine ⟨hp.imp_left fun hp => ⟨hp, fun q hq hplace => hle q (Or.inl hq) hplace⟩, ?_⟩
    rintro q (hq | hq) hplace
    · exact hle q (Or.inl hq.1) hplace
    · exact hle q (Or.inr hq) hplace

/-- Positions that come after all others stay apart from them. -/
theorem onePerPlace_append_of_lt (hps : Increasing ps)
    (hlt : ∀ p ∈ ps, ∀ q ∈ qs, p.place < q.place) :
    onePerPlace (ps ++ qs) = ps ++ onePerPlace qs := by
  have hsub {q : Position} (hq : q ∈ onePerPlace qs) : q ∈ qs := (mem_onePerPlace_iff.mp hq).1
  have hinc : Increasing (ps ++ onePerPlace qs) := by
    refine List.pairwise_append.mpr ⟨hps, increasing_onePerPlace qs, ?_⟩
    intro p hp q hq
    exact hlt p hp q (hsub hq)
  refine (hinc.eq_onePerPlace fun p => ?_).symm
  simp only [List.mem_append, mem_onePerPlace_iff, StrongestIn]
  constructor
  · rintro (hp | ⟨hp, hle⟩)
    · refine ⟨Or.inl hp, ?_⟩
      rintro q (hq | hq) hplace
      · exact (hps.strongestIn hp).2 q hq hplace
      · exact absurd hplace.symm (Nat.ne_of_lt (hlt p hp q hq))
    · refine ⟨Or.inr hp, ?_⟩
      rintro q (hq | hq) hplace
      · exact absurd hplace (Nat.ne_of_lt (hlt q hq p hp))
      · exact hle q hq hplace
  · rintro ⟨hp, hle⟩
    exact hp.imp_right fun hp => ⟨hp, fun q hq hplace => hle q (Or.inr hq) hplace⟩

/-- Every place that is given before another is kept. -/
theorem length_le_filter_onePerPlace (hps : Increasing ps) (hlt : ∀ p ∈ ps, p.place < t)
    (hsub : ∀ p ∈ ps, p ∈ qs) : ps.length ≤ ((onePerPlace qs).filter (·.place < t)).length := by
  have hnodup : (ps.map Position.place).Nodup := List.pairwise_map.mpr (hps.imp Nat.ne_of_lt)
  have hplaces : ps.map Position.place ⊆
      ((onePerPlace qs).filter (·.place < t)).map Position.place := by
    intro k hk
    obtain ⟨p, hp, rfl⟩ := List.mem_map.mp hk
    obtain ⟨q, hq, hplace⟩ := exists_mem_onePerPlace (hsub p hp)
    refine List.mem_map.mpr ⟨q, List.mem_filter.mpr ⟨hq, ?_⟩, hplace⟩
    simpa [hplace] using hlt p hp
  have hle := hnodup.length_le_of_subset hplaces
  rwa [List.length_map, List.length_map] at hle

/-! ## Settling again and again -/

/-- What settling gives depends only on which positions there are. -/
theorem settle_congr (h : ∀ p, p ∈ ps ↔ p ∈ qs) : settle ps = settle qs :=
  congrArg (List.take maxPositions) (onePerPlace_congr h)

/-- If enough positions come before a place, only those before it matter. -/
theorem settle_eq_of_filter
    (hsame : ps.filter (·.place < t) = qs.filter (·.place < t))
    (hcount : maxPositions ≤ ((onePerPlace ps).filter (·.place < t)).length) :
    settle ps = settle qs := by
  have hfilter : (onePerPlace ps).filter (·.place < t) = (onePerPlace qs).filter (·.place < t) := by
    rw [filter_onePerPlace, filter_onePerPlace, hsame]
  calc settle ps = ((onePerPlace ps).filter (·.place < t)).take maxPositions :=
        ((increasing_onePerPlace ps).take_filter hcount).symm
    _ = ((onePerPlace qs).filter (·.place < t)).take maxPositions := by rw [hfilter]
    _ = settle qs := (increasing_onePerPlace qs).take_filter (hfilter ▸ hcount)

/-- Positions may be settled before others come. The limit makes this more than a matter of order: a
place that is cut off before would be cut off again. -/
theorem settle_append_left (ps qs : List Position) :
    settle (settle ps ++ qs) = settle (ps ++ qs) := by
  have hall : settle (onePerPlace ps ++ qs) = settle (ps ++ qs) := by
    rw [settle_eq, settle_eq, onePerPlace_append]
  rcases Nat.lt_or_ge maxPositions (onePerPlace ps).length with hmany | hfew
  · -- as many as there may be come before some place, so nothing from there on matters
    obtain ⟨t, ht⟩ := (increasing_onePerPlace ps).exists_take_eq hmany
    have hkept : settle ps = (onePerPlace ps).filter (·.place < t) := ht
    have hlength : (settle ps).length = maxPositions := by
      rw [settle_eq, List.length_take, Nat.min_eq_left (Nat.le_of_lt hmany)]
    have hbefore : ∀ p ∈ settle ps, p.place < t := by
      intro p hp
      rw [hkept, List.mem_filter] at hp
      simpa using hp.2
    have hcount := length_le_filter_onePerPlace (increasing_settle ps) hbefore
      fun p hp => List.mem_append_left qs hp
    rw [hlength] at hcount
    rw [← hall]
    refine settle_eq_of_filter ?_ hcount
    rw [List.filter_append, List.filter_append, hkept, List.filter_filter]
    simp only [Bool.and_self]
  · rw [settle_eq ps, List.take_of_length_le hfew, hall]

/-- Positions of a second vector need not be settled before they are put behind those of a first
one. -/
theorem settle_append_right (ps qs : List Position) :
    settle (ps ++ settle qs) = settle (ps ++ qs) := by
  have hswap (l : List Position) : settle (ps ++ l) = settle (l ++ ps) :=
    settle_congr fun p => by rw [List.mem_append, List.mem_append, or_comm]
  rw [hswap, settle_append_left, hswap]

/-- Any number of lists may be settled one by one before they are settled together. -/
theorem settle_flatMap_settle {α : Type} (f : α → List Position) (l : List α) :
    settle (l.flatMap fun a => settle (f a)) = settle (l.flatMap f) := by
  induction l with
  | nil => rfl
  | cons a l ih =>
    rw [List.flatMap_cons, List.flatMap_cons, settle_append_left, ← settle_append_right, ih,
      settle_append_right]

end EventIntake
