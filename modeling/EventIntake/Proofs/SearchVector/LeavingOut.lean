import EventIntake.Proofs.SearchVector.WellFormed

/-!
# Leaving out

Stripping keeps the lexemes without their positions. Deleting lexemes and taking the first or the
freshest keeps some entries as they are; which ones is said by `lexemes_takeFirst` and
`lexemes_takeFreshest_perm`. All of these give well-formed vectors.
-/

namespace EventIntake.SearchVector

variable {v : SearchVector} {x : String}

/-! ## Stripping -/

/-- Stripping leaves every lexeme where it is, and takes all of its positions. -/
theorem positions?_strip (v : SearchVector) (x : String) :
    v.strip.positions? x = (v.positions? x).map fun _ => [] :=
  lookup_map (fun _ _ => []) v.entries x

/-- No lexeme is lost by stripping, which is why an issue can still be found by a vector that had to
be stripped. -/
theorem lexemes_strip (v : SearchVector) : v.strip.lexemes = v.lexemes := by
  rw [lexemes, strip, List.map_map]
  rfl

/-- A lexeme without positions is well-formed, so stripping needs no other condition. -/
theorem WellFormed.strip (hv : v.WellFormed) : v.strip.WellFormed := by
  refine wellFormed_of_positions (hv.ascending.map fun _ => []) fun x ps hx => ?_
  rw [positions?_strip] at hx
  obtain ⟨qs, hqs, rfl⟩ := Option.map_eq_some_iff.mp hx
  exact ⟨(hv.positions hqs).lexeme_ok, fun _ hp => absurd hp List.not_mem_nil,
    List.Pairwise.nil, Nat.zero_le _⟩

/-! ## Some lexemes -/

/-- What is left after some lexemes are deleted is well-formed, whether they were there or not. -/
theorem WellFormed.delete (hv : v.WellFormed) (lexemes : List String) :
    (v.delete lexemes).WellFormed :=
  (hv.of_subset (hv.ascending.sublist List.filter_sublist) fun _ he => (List.mem_filter.mp he).1).1

/-! ## The first lexemes -/

/-- The lexemes that are kept are the first ones in byte order, and all of them if there are no more
than `n`. -/
theorem lexemes_takeFirst (v : SearchVector) (n : Nat) :
    (v.takeFirst n).lexemes = v.lexemes.take n :=
  List.map_take

theorem WellFormed.takeFirst (hv : v.WellFormed) (n : Nat) : (v.takeFirst n).WellFormed :=
  (hv.of_subset (hv.ascending.sublist (List.take_sublist n _)) fun _ => List.mem_of_mem_take).1

/-! ## The freshest lexemes -/

/-- Entries sorted by lexeme are in strict byte order if no two have the same. -/
theorem ascending_mergeSort {es : List Entry} (h : (es.map Entry.lexeme).Nodup) :
    Ascending (es.mergeSort Entry.before) := by
  have hne : (es.mergeSort Entry.before).Pairwise fun e f => e.lexeme ≠ f.lexeme :=
    ((List.mergeSort_perm es Entry.before).pairwise_iff Ne.symm).mpr (List.pairwise_map.mp h)
  refine ((inOrder_mergeSort es).and hne).imp fun ⟨hle, hne⟩ => ?_
  exact String.not_le.mp fun hge => hne (String.le_antisymm hle hge)

theorem nodup_lexemes (hv : Ascending v.entries) : v.lexemes.Nodup :=
  (lexemes_strictly_sorted hv).imp String.ne_of_lt

/-- The order by freshness is transitive: by latest place first, and by byte order where entries are
tied. -/
theorem fresher_trans (e f g : Entry) (hef : fresher e f = true) (hfg : fresher f g = true) :
    fresher e g = true := by
  simp only [fresher, Bool.or_eq_true, Bool.and_eq_true, decide_eq_true_eq, beq_iff_eq] at *
  rcases hef with hef | ⟨hef, hle⟩ <;> rcases hfg with hfg | ⟨hfg, hle'⟩
  · exact Or.inl (Nat.lt_trans hfg hef)
  · exact Or.inl (hfg ▸ hef)
  · exact Or.inl (hef ▸ hfg)
  · exact Or.inr ⟨hef.trans hfg, String.le_trans hle hle'⟩

/-- Of two entries one is at least as fresh as the other, since byte order settles every tie. -/
theorem fresher_total (e f : Entry) : (fresher e f || fresher f e) = true := by
  simp only [fresher, Bool.or_eq_true, Bool.and_eq_true, decide_eq_true_eq, beq_iff_eq]
  rcases Nat.lt_trichotomy e.latestPlace f.latestPlace with hlt | heq | hgt
  · exact Or.inr (Or.inl hlt)
  · rcases String.le_total e.lexeme f.lexeme with hle | hle
    · exact Or.inl (Or.inr ⟨heq, hle⟩)
    · exact Or.inr (Or.inr ⟨heq.symm, hle⟩)
  · exact Or.inl (Or.inl hgt)

/-- The entries from the freshest on. -/
def byFreshness (v : SearchVector) : List Entry :=
  v.entries.mergeSort fresher

theorem byFreshness_perm (v : SearchVector) : v.byFreshness.Perm v.entries :=
  List.mergeSort_perm _ _

/-- The freshest lexemes are the first by freshness. -/
theorem lexemes_takeFreshest_perm (v : SearchVector) (n : Nat) :
    (v.takeFreshest n).lexemes.Perm ((v.byFreshness.map Entry.lexeme).take n) := by
  rw [← List.map_take]
  exact (List.mergeSort_perm _ Entry.before).map Entry.lexeme

/-- The freshest entries are put back into byte order after they are chosen, so the vector is in
strict byte order again. -/
theorem ascending_takeFreshest (hv : Ascending v.entries) (n : Nat) :
    Ascending (v.takeFreshest n).entries := by
  refine ascending_mergeSort ?_
  have hnodup : (v.byFreshness.map Entry.lexeme).Nodup :=
    (v.byFreshness_perm.map Entry.lexeme).nodup_iff.mpr (nodup_lexemes hv)
  rw [List.map_take]
  exact hnodup.sublist (List.take_sublist n _)

/-- What is kept is kept with all of its positions: only whole entries are left out. -/
theorem mem_of_mem_takeFreshest {n : Nat} {e : Entry} (h : e ∈ (v.takeFreshest n).entries) :
    e ∈ v.entries :=
  v.byFreshness_perm.mem_iff.mp (List.mem_of_mem_take (List.mem_mergeSort.mp h))

theorem WellFormed.takeFreshest (hv : v.WellFormed) (n : Nat) : (v.takeFreshest n).WellFormed :=
  (hv.of_subset (ascending_takeFreshest hv.ascending n) fun _ => mem_of_mem_takeFreshest).1

theorem size_takeFreshest (v : SearchVector) (n : Nat) :
    (v.takeFreshest n).size = min n v.size := by
  rw [size_eq_length_lexemes, (lexemes_takeFreshest_perm v n).length_eq, List.length_take,
    List.length_map, v.byFreshness_perm.length_eq, size]

/-- As many lexemes are kept as with the freshest ones: the two orders differ in which lexemes are
left out, never in how many. -/
theorem size_takeFirst (v : SearchVector) (n : Nat) : (v.takeFirst n).size = min n v.size :=
  List.length_take

end EventIntake.SearchVector
