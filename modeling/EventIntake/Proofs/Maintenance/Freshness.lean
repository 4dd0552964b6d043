import EventIntake.Maintenance
import EventIntake.Proofs.SearchVector.LatestPlace
import EventIntake.Proofs.SearchVector.LeavingOut

/-!
# What recent truncation goes by

Recent truncation sees no more of a vector than its lexemes and how their latest places compare. What
is fresher than something that is kept is kept too (`mem_truncate_of_lastOf_lt`), and vectors with the
same lexemes whose latest places compare alike keep the same ones (`lexemes_truncate_congr`).
-/

namespace EventIntake.SearchVector

variable {v w : SearchVector} {x y : String} {n : Nat}

/-- The lexeme `x` comes before `y` by freshness: its latest place is later, or they have the same and
`x` is first in byte order. -/
def FresherIn (v : SearchVector) (x y : String) : Prop :=
  v.lastOf y < v.lastOf x ∨ v.lastOf x = v.lastOf y ∧ x ≤ y

/-- A fresher lexeme did not occur last before the other one. They may be tied. -/
theorem FresherIn.le (h : v.FresherIn x y) : v.lastOf y ≤ v.lastOf x := by
  rcases h with hlt | ⟨heq, -⟩
  · exact Nat.le_of_lt hlt
  · exact Nat.le_of_eq heq.symm

/-- Freshness of entries is freshness of their lexemes, since in strict byte order each lexeme has
one entry. -/
theorem fresherIn_of_fresher (hv : Ascending v.entries) {e f : Entry} (he : e ∈ v.entries)
    (hf : f ∈ v.entries) (h : fresher e f = true) : v.FresherIn e.lexeme f.lexeme := by
  simp only [fresher, Bool.or_eq_true, Bool.and_eq_true, decide_eq_true_eq, beq_iff_eq] at h
  rw [latestPlace_eq_lastOf hv he, latestPlace_eq_lastOf hv hf] at h
  exact h

/-- Sorted by freshness, every lexeme is fresher than all that come after it. -/
theorem pairwise_byFreshness (hv : Ascending v.entries) :
    (v.byFreshness.map Entry.lexeme).Pairwise v.FresherIn := by
  have hsorted := List.pairwise_mergeSort fresher_trans fresher_total v.entries
  refine List.pairwise_map.mpr (hsorted.imp_of_mem fun he hf hef => ?_)
  exact fresherIn_of_fresher hv (List.mem_mergeSort.mp he) (List.mem_mergeSort.mp hf) hef

theorem lexemes_byFreshness_perm (v : SearchVector) :
    (v.byFreshness.map Entry.lexeme).Perm v.lexemes :=
  v.byFreshness_perm.map Entry.lexeme

/-! ## What is left out -/

/-- A lexeme that is left out is no fresher than one that is kept. This is all that is needed of
recent truncation to tell what is kept. -/
theorem lastOf_le_of_left_out (hv : Ascending v.entries) (hx : x ∈ v.lexemes)
    (hout : x ∉ (v.truncate n .recent).lexemes) (hy : y ∈ (v.truncate n .recent).lexemes) :
    v.lastOf x ≤ v.lastOf y := by
  simp only [truncate] at hout hy
  split at hout
  · exact absurd hx hout
  next hsize =>
    rw [if_neg hsize] at hy
    have hkept := lexemes_takeFreshest_perm v n
    rw [hkept.mem_iff] at hout hy
    -- the kept lexemes are a beginning of all by freshness, and `x` is in the rest
    have horder := pairwise_byFreshness hv
    have hmem : x ∈ v.byFreshness.map Entry.lexeme := (lexemes_byFreshness_perm v).mem_iff.mpr hx
    rw [← List.take_append_drop n (v.byFreshness.map Entry.lexeme)] at hmem horder
    have hrest := (List.mem_append.mp hmem).resolve_left hout
    exact ((List.pairwise_append.mp horder).2.2 y hy x hrest).le

/-- Whatever is fresher than a lexeme that is kept is kept too. -/
theorem mem_truncate_of_lastOf_lt (hv : Ascending v.entries) (hx : x ∈ v.lexemes)
    (hy : y ∈ (v.truncate n .recent).lexemes) (hlt : v.lastOf y < v.lastOf x) :
    x ∈ (v.truncate n .recent).lexemes := by
  refine Decidable.byContradiction fun hout => ?_
  exact Nat.not_lt.mpr (lastOf_le_of_left_out hv hx hout hy) hlt

/-! ## What it does not see -/

/-- The order by freshness depends on the order of the latest places only, and not on the places.
Both sides are sorted by the same order, and ties are settled by byte order, so they are equal. -/
theorem lexemes_byFreshness_congr (hv : Ascending v.entries) (hw : Ascending w.entries)
    (hlexemes : v.lexemes = w.lexemes)
    (hplaces : ∀ x y, v.lastOf x < v.lastOf y ↔ w.lastOf x < w.lastOf y) :
    v.byFreshness.map Entry.lexeme = w.byFreshness.map Entry.lexeme := by
  have hsame : ∀ {x y}, w.FresherIn x y → v.FresherIn x y := by
    intro x y h
    have hxy := hplaces x y
    have hyx := hplaces y x
    rcases h with hlt | ⟨heq, hle⟩
    · exact Or.inl (hyx.mpr hlt)
    · exact Or.inr ⟨by omega, hle⟩
  have hperm : (v.byFreshness.map Entry.lexeme).Perm (w.byFreshness.map Entry.lexeme) :=
    (lexemes_byFreshness_perm v).trans (hlexemes ▸ (lexemes_byFreshness_perm w).symm)
  refine hperm.eq_of_pairwise (fun x y _ _ hxy hyx => ?_) (pairwise_byFreshness hv)
    ((pairwise_byFreshness hw).imp hsame)
  -- of two lexemes with the same latest place, each comes first in byte order
  rcases hxy with hlt | ⟨heq, hle⟩ <;> rcases hyx with hlt' | ⟨heq', hle'⟩
  · omega
  · omega
  · omega
  · exact String.le_antisymm hle hle'

/-- Vectors with the same lexemes whose latest places compare alike keep the same lexemes. The
places themselves, the weights and all earlier positions do not matter. -/
theorem lexemes_truncate_congr (hv : Ascending v.entries) (hw : Ascending w.entries)
    (hlexemes : v.lexemes = w.lexemes)
    (hplaces : ∀ x y, v.lastOf x < v.lastOf y ↔ w.lastOf x < w.lastOf y) (n : Nat) :
    (v.truncate n .recent).lexemes = (w.truncate n .recent).lexemes := by
  have hsize : v.size = w.size := by
    rw [size_eq_length_lexemes, size_eq_length_lexemes, hlexemes]
  simp only [truncate, hsize]
  split
  · exact hlexemes
  · have hfresh := lexemes_byFreshness_congr hv hw hlexemes hplaces
    refine (lexemes_strictly_sorted (ascending_takeFreshest hv n)).eq_of_mem_iff
      (lexemes_strictly_sorted (ascending_takeFreshest hw n)) fun x => ?_
    rw [(lexemes_takeFreshest_perm v n).mem_iff, (lexemes_takeFreshest_perm w n).mem_iff, hfresh]

end EventIntake.SearchVector
