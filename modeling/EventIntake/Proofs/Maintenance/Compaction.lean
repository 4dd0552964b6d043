import EventIntake.Proofs.Maintenance.Freshness

/-!
# Compaction and recent truncation

Before a text follows, a vector is compacted if there is no room otherwise. Recent truncation cannot
tell (`compaction_invisible`): compaction keeps how the latest places compare, and in a lossless
concatenation they compare by the second vector first (`lastOf_concat_lt_iff`).
-/

namespace EventIntake.SearchVector

variable {v w : SearchVector}

/-! ## Compacting first -/

/-- Recent truncation of a lossless concatenation keeps the same lexemes when the first vector is
compacted before. -/
theorem lexemes_truncate_compact_concat (h : v.Lossless w) (hv : v.WellFormed) (hw : w.WellFormed)
    (n : Nat) :
    ((v.compact.concat w).truncate n .recent).lexemes =
      ((v.concat w).truncate n .recent).lexemes := by
  refine lexemes_truncate_congr (hv.compact.concat hw).ascending (hv.concat hw).ascending ?_ ?_ n
  · exact lexemes_concat_congr hv.compact.ascending hv.ascending hw.ascending (lexemes_compact v)
  · intro x y
    rw [lastOf_concat_lt_iff (h.compact hv) hv.compact hw, lastOf_concat_lt_iff h hv hw,
      lastOf_compact_lt_iff hv]

/-! ## What compaction does -/

/-- The vector `c` is `v` with the latest positions only, at places counted anew without gaps. -/
structure Renumbered (v c : SearchVector) : Prop where
  /-- the lexemes are the same -/
  lexemes : c.lexemes = v.lexemes
  /-- a lexeme without positions still has none -/
  unplaced : ∀ x, v.positions? x = some [] → c.positions? x = some []
  /-- another has exactly one, with the weight of its latest -/
  placed : ∀ x ps p, v.positions? x = some (ps ++ [p]) →
    ∃ n, c.positions? x = some [⟨n, p.weight⟩]
  /-- the latest places compare as before -/
  order : ∀ x y, c.lastOf x < c.lastOf y ↔ v.lastOf x < v.lastOf y
  /-- the ties are those there were -/
  ties : ∀ x y, c.lastOf x = c.lastOf y ↔ v.lastOf x = v.lastOf y
  /-- the places are exactly those from 1 to some `k` -/
  gapless : ∃ k, ∀ n, (∃ e ∈ c.entries, ∃ p ∈ e.positions, p.place = n) ↔ 1 ≤ n ∧ n ≤ k

/-- Compaction renumbers a vector: it keeps the lexemes, the order of their latest places and the
weights there, and leaves no gap. -/
theorem renumbered_compact (hv : v.WellFormed) : v.Renumbered v.compact where
  lexemes := lexemes_compact v
  unplaced := by
    intro x hx
    rw [hv.positions?_compact, hx, Option.map_some, compacted_nil]
  placed := by
    intro x ps p hx
    refine ⟨v.rank p.place, ?_⟩
    rw [hv.positions?_compact, hx, Option.map_some, compacted_concat]
  order := fun x y => lastOf_compact_lt_iff hv
  ties := by
    intro x y
    have hxy := lastOf_compact_lt_iff (x := x) (y := y) hv
    have hyx := lastOf_compact_lt_iff (x := y) (y := x) hv
    omega
  gapless := ⟨v.compact.maxPosition, hv.exists_place_compact_iff⟩

/-- Recent truncation cannot tell whether a vector was compacted before another followed without
losses, and then it follows the compacted one without losses too. Compaction is a renumbering of the
latest places without gaps, and to do it again changes nothing. -/
theorem compaction_invisible (hv : v.WellFormed) :
    (∀ w : SearchVector, w.WellFormed → v.concatIsLossless w = true →
      (∀ n, ((v.concat w).truncate n .recent).lexemes =
        ((v.compact.concat w).truncate n .recent).lexemes) ∧
      v.compact.concatIsLossless w = true) ∧
    v.Renumbered v.compact ∧ v.compact.compact = v.compact := by
  refine ⟨fun w hw hlossless => ?_, renumbered_compact hv, hv.compact_compact⟩
  have h : v.Lossless w := (concatIsLossless_iff hv hw).mp hlossless
  constructor
  · intro n
    exact (lexemes_truncate_compact_concat h hv hw n).symm
  · exact (concatIsLossless_iff hv.compact hw).mpr (h.compact hv)

/-- Two lexemes that occurred last together, one that occurred last before, and one that never did. -/
def tied : SearchVector :=
  ⟨[⟨"a", [⟨7, .d⟩]⟩, ⟨"b", [⟨7, .d⟩, ⟨90, .a⟩]⟩, ⟨"c", []⟩, ⟨"d", [⟨90, .b⟩]⟩]⟩

/-- The one that occurred last before once more, and the one that never did. -/
def follower : SearchVector := ⟨[⟨"a", [⟨2, .d⟩]⟩, ⟨"c", []⟩]⟩

/-- Behind the places of the first vector, which go up to 90, the second one goes on at 92 with the
first of its lexemes, and the other has no position. -/
theorem concat_tied : tied.concat follower =
    ⟨[⟨"a", [⟨7, .d⟩, ⟨92, .d⟩]⟩, ⟨"b", [⟨7, .d⟩, ⟨90, .a⟩]⟩, ⟨"c", []⟩, ⟨"d", [⟨90, .b⟩]⟩]⟩ := by
  simp [concat, gather, settle, firstAtEachPlace, tied, follower, List.mergeSort, Entry.before,
    Entry.latestPlace, Entry.latest?, Position.before, Position.shift, Position.ofPlace, Weight.rank,
    maxPosition, maxPlace, maxPositions]

/-- The lexeme that comes back is the freshest, and of the two that are tied the first in byte order
is kept with it, compacted or not. -/
theorem compaction_invisible_tied :
    tied.WellFormed ∧ follower.WellFormed ∧ tied.concatIsLossless follower = true ∧
    ((tied.concat follower).truncate 2 .recent).lexemes = ["a", "b"] ∧
    ((tied.compact.concat follower).truncate 2 .recent).lexemes = ["a", "b"] ∧
    tied.compact.concatIsLossless follower = true ∧ tied.Renumbered tied.compact ∧
    tied.compact.compact = tied.compact := by
  have htied : tied.WellFormed := by decide
  have hfollower : follower.WellFormed := by decide
  have hlossless : tied.concatIsLossless follower = true := by
    simp [concatIsLossless, gather, tied, follower, Entry.before, Entry.latestPlace, Entry.latest?,
      maxPosition, maxPlace, maxPositions]
  have hkept : ((tied.concat follower).truncate 2 .recent).lexemes = ["a", "b"] := by
    rw [concat_tied]
    simp [truncate, takeFreshest, fresher, List.mergeSort, Entry.before, Entry.latestPlace,
      Entry.latest?, size, lexemes]
  obtain ⟨hinvisible, hrenumbered, hagain⟩ := compaction_invisible htied
  obtain ⟨hsame, hstill⟩ := hinvisible follower hfollower hlossless
  exact ⟨htied, hfollower, hlossless, hkept, (hsame 2).symm.trans hkept, hstill, hrenumbered, hagain⟩

end EventIntake.SearchVector
