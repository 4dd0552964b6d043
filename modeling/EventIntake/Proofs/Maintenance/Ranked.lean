import EventIntake.Proofs.Maintenance.Append
import EventIntake.Proofs.Maintenance.Freshness
import Mathlib.Data.List.Nodup

/-!
# Lexemes by recency

The latest places of a vector put its lexemes in an order; `Ranked` says that a list is this order,
the latest first. A lossless concatenation puts the lexemes of the second vector in front
(`Ranked.concat`), compaction keeps the order (`Ranked.compact`), and recent truncation keeps its
beginning (`Ranked.truncate`). When a text that is not too long follows, compaction makes room for it,
and nothing is lost (`Ranked.follow`).
-/

namespace EventIntake.SearchVector

variable {v w : SearchVector} {order added : List String}

/-! ## The order by recency -/

/-- The list is the lexemes of a vector in the order of their latest places, the latest first. -/
structure Ranked (v : SearchVector) (order : List String) : Prop where
  /-- the lexemes are those of the vector -/
  mem : ∀ x, x ∈ order ↔ x ∈ v.lexemes
  /-- every lexeme has a place -/
  placed : ∀ x ∈ order, 1 ≤ v.lastOf x
  /-- the latest places decrease -/
  latest : order.Pairwise fun x y => v.lastOf y < v.lastOf x

namespace Ranked

theorem nodup (h : v.Ranked order) : order.Nodup :=
  h.latest.imp fun hlt heq => absurd (heq ▸ hlt) (Nat.lt_irrefl _)

theorem perm (h : v.Ranked order) (hv : v.WellFormed) : order.Perm v.lexemes :=
  (List.perm_ext_iff_of_nodup h.nodup (nodup_lexemes hv.ascending)).mpr h.mem

theorem length_eq (h : v.Ranked order) (hv : v.WellFormed) : order.length = v.size := by
  rw [(h.perm hv).length_eq, size_eq_length_lexemes]

/-- The lexemes of the second vector come first, in their own order, and then those of the first
vector that are not among them. Without losses their latest places are all behind those of the first
vector. -/
theorem concat (hr : v.Ranked order) (ha : w.Ranked added) (h : v.Lossless w)
    (hv : v.WellFormed) (hw : w.WellFormed) :
    (v.concat w).Ranked (added ++ order.filter fun x => !added.contains x) := by
  have hnew {x : String} (hx : x ∈ added) : (v.concat w).lastOf x = w.lastOf x + v.maxPosition :=
    lastOf_concat h hv hw (ha.placed x hx)
  have hold {x : String} (hx : x ∈ order.filter fun x => !added.contains x) :
      x ∈ order ∧ x ∉ added ∧ (v.concat w).lastOf x = v.lastOf x := by
    obtain ⟨hmem, hnot⟩ := List.mem_filter.mp hx
    have hnot : x ∉ added := by simpa using hnot
    have hzero : w.lastOf x = 0 := lastOf_eq_zero_of_not_mem fun hxw => hnot ((ha.mem x).mpr hxw)
    exact ⟨hmem, hnot, lastOf_concat_of_eq_zero hv hw hzero⟩
  refine ⟨fun x => ?_, fun x hx => ?_, ?_⟩
  · rw [mem_lexemes_concat hv.ascending hw.ascending, List.mem_append, List.mem_filter, ha.mem,
      hr.mem]
    by_cases hx : x ∈ w.lexemes
    · simp [hx]
    · have hnot : x ∉ added := fun hmem => hx ((ha.mem x).mp hmem)
      simp [hx, hnot]
  · rcases List.mem_append.mp hx with hx | hx
    · rw [hnew hx]
      exact Nat.le_trans (ha.placed x hx) (Nat.le_add_right _ _)
    · rw [(hold hx).2.2]
      exact hr.placed x (hold hx).1
  · refine List.pairwise_append.mpr ⟨?_, ?_, fun x hx y hy => ?_⟩
    · refine ha.latest.imp_of_mem fun hx hy hlt => ?_
      rw [hnew hx, hnew hy]
      exact Nat.add_lt_add_right hlt _
    · refine (hr.latest.filter _).imp_of_mem fun hx hy hlt => ?_
      rw [(hold hx).2.2, (hold hy).2.2]
      exact hlt
    · -- every place of the first vector is before those of the second
      have hle := lastOf_le_maxPosition v y
      have hpos := ha.placed x hx
      rw [hnew hx, (hold hy).2.2]
      omega

/-- Compaction keeps the order. -/
theorem compact (h : v.Ranked order) (hv : v.WellFormed) : v.compact.Ranked order := by
  refine ⟨fun x => ?_, fun x hx => ?_, ?_⟩
  · rw [h.mem, lexemes_compact]
  · obtain ⟨ps, hps, hne, hlast⟩ := exists_positions_of_lastOf (h.placed x hx)
    rw [lastOf_compact hv, hlast]
    exact rank_pos hps hne
  · exact h.latest.imp fun hlt => (lastOf_compact_lt_iff hv).mpr hlt

/-- Some of the entries of a vector have the same order, the others left out. -/
theorem of_subset (h : v.Ranked order) (hv : v.WellFormed) (hasc : Ascending w.entries)
    (hsub : ∀ e ∈ w.entries, e ∈ v.entries) {order' : List String} (hsublist : order'.Sublist order)
    (hmem : ∀ x, x ∈ order' ↔ x ∈ w.lexemes) : w.Ranked order' := by
  have hsame {x : String} (hx : x ∈ order') : w.lastOf x = v.lastOf x := by
    rw [lastOf, lastOf, (hv.of_subset hasc hsub).2 x ((hmem x).mp hx)]
  refine ⟨hmem, fun x hx => ?_, ?_⟩
  · rw [hsame hx]
    exact h.placed x (hsublist.mem hx)
  · refine (h.latest.sublist hsublist).imp_of_mem fun hx hy hlt => ?_
    rw [hsame hx, hsame hy]
    exact hlt

/-- The lexemes by freshness are the order. -/
theorem map_byFreshness (h : v.Ranked order) (hv : v.WellFormed) :
    v.byFreshness.map Entry.lexeme = order := by
  have hfresh := (pairwise_byFreshness hv.ascending).imp FresherIn.le
  have hperm : (v.byFreshness.map Entry.lexeme).Perm order :=
    (lexemes_byFreshness_perm v).trans (h.perm hv).symm
  have hplaces : (order.map v.lastOf).Nodup := List.pairwise_map.mpr (h.latest.imp Nat.ne_of_gt)
  -- there are no ties: two lexemes with the same latest place are the same
  refine hperm.eq_of_pairwise (fun x y hx hy hxy hyx => ?_) hfresh
    (h.latest.imp Nat.le_of_lt)
  exact List.inj_on_of_nodup_map hplaces (hperm.mem_iff.mp hx) hy (Nat.le_antisymm hyx hxy)

/-- Recent truncation keeps the beginning of the order, so what is kept is ranked by it again. -/
theorem truncate (h : v.Ranked order) (hv : v.WellFormed) (n : Nat) :
    (v.truncate n .recent).Ranked (order.take n) := by
  simp only [SearchVector.truncate]
  split
  next hsize =>
    rw [List.take_of_length_le (by rwa [h.length_eq hv])]
    exact h
  next =>
    refine h.of_subset hv (ascending_takeFreshest hv.ascending n)
      (fun e => mem_of_mem_takeFreshest) (List.take_sublist n order) fun x => ?_
    rw [(lexemes_takeFreshest_perm v n).mem_iff, h.map_byFreshness hv]

end Ranked

/-! ## Recent concatenation -/

/-- When a text that is not too long follows, its lexemes come first and none is forgotten. -/
theorem Ranked.follow (hr : v.Ranked order) (ha : w.Ranked added) (hv : v.WellFormed)
    (hw : w.WellFormed) (hreach : v.size + w.maxPosition ≤ maxPlace)
    (hroom : ∀ x, w.countOf x < maxPositions) :
    (v.follow w .recent).Ranked (added ++ order.filter fun x => !added.contains x) := by
  rw [SearchVector.follow]
  split
  next hlossless => exact hr.concat ha ((concatIsLossless_iff hv hw).mp hlossless) hv hw
  next => exact (hr.compact hv).concat ha (lossless_compact hv hreach hroom) hv.compact hw

end EventIntake.SearchVector
