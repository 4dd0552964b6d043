import EventIntake.Proofs.SearchVector.Concat
import EventIntake.Proofs.SearchVector.Settled

/-!
# What a concatenation keeps

Nothing of the first vector gets lost in a concatenation, whether or not it is lossless
(`concat_keeps_history`). A lexeme keeps its places, and what is new comes after them, as far as there
is room. Only at the end of the range, where all places meet that are moved too far, can a position of
the first vector change: it takes the weight of a stronger one that gets there.
-/

namespace EventIntake

/-- What a position may become: it stays at its place and keeps its weight, or it gets a stronger one at
the end of the range. -/
def Position.Upheld (p q : Position) : Prop :=
  q.place = p.place ∧
    (q.weight = p.weight ∨ p.place = maxPlace ∧ q.weight.rank < p.weight.rank)

variable {p q : Position} {ps qs : List Position} {m : Nat}

theorem Position.Upheld.refl (p : Position) : p.Upheld p :=
  ⟨rfl, Or.inl rfl⟩

/-! ## At the end of the range -/

/-- Positions that are all at one place are settled to one. -/
theorem exists_onePerPlace_eq_singleton {k : Nat} (hp : p ∈ ps) (hplace : ∀ q ∈ ps, q.place = k) :
    ∃ q, onePerPlace ps = [q] ∧ q.place = k := by
  obtain ⟨q, hq, -⟩ := exists_mem_onePerPlace hp
  have hsub {r : Position} (hr : r ∈ onePerPlace ps) : r.place = k :=
    hplace r (mem_onePerPlace_iff.mp hr).1
  refine ⟨q, ?_, hsub hq⟩
  refine (increasing_onePerPlace ps).ext (List.pairwise_singleton _ q) fun r => ?_
  rw [List.mem_singleton]
  constructor
  · intro hr
    exact (increasing_onePerPlace ps).eq_of_place hr hq ((hsub hr).trans (hsub hq).symm)
  · rintro rfl
    exact hq

/-- Positions that are moved past the end of the range get to the end of it. -/
theorem place_shift_of_le (hm : maxPlace ≤ m) (p : Position) : (p.shift m).place = maxPlace := by
  simp only [Position.shift, Position.ofPlace]
  omega

/-! ## Settling what follows -/

/-- The positions among `qs` whose places are not taken in `ps`. -/
def newAmong (ps qs : List Position) : List Position :=
  qs.filter fun q => !(ps.map Position.place).contains q.place

theorem newAmong_eq_self (h : ∀ p ∈ ps, ∀ q ∈ qs, p.place < q.place) : newAmong ps qs = qs := by
  refine List.filter_eq_self.mpr fun q hq => ?_
  simp only [Bool.not_eq_true', List.contains_eq_mem, decide_eq_false_iff_not, List.mem_map]
  rintro ⟨p, hp, hplace⟩
  exact Nat.ne_of_lt (h p hp q hq) hplace

/-- Positions at a place that is taken are not new; at most they make the weight there stronger. -/
theorem newAmong_eq_nil (hp : p ∈ ps) (h : ∀ q ∈ qs, q.place = p.place) : newAmong ps qs = [] := by
  refine List.filter_eq_nil_iff.mpr fun q hq => ?_
  simp only [Bool.not_eq_true', List.contains_eq_mem, decide_eq_false_iff_not, List.mem_map,
    not_not]
  exact ⟨p, hp, (h q hq).symm⟩

/-- The last position at the end of the range takes the weight of a stronger one that gets there. -/
theorem onePerPlace_append_end (hinc : Increasing (ps ++ [p])) (hp : p.place = maxPlace)
    (hqs : ∀ q ∈ qs, q.place = maxPlace) :
    ∃ r, onePerPlace (ps ++ [p] ++ qs) = ps ++ [r] ∧ p.Upheld r := by
  obtain ⟨hps, -, hcross⟩ := List.pairwise_append.mp hinc
  have hall : ∀ q ∈ p :: qs, q.place = maxPlace := List.forall_mem_cons.mpr ⟨hp, hqs⟩
  have hlt : ∀ o ∈ ps, ∀ q ∈ p :: qs, o.place < q.place := by
    intro o ho q hq
    rw [hall q hq, ← hp]
    exact hcross o ho p (List.mem_singleton.mpr rfl)
  obtain ⟨r, hr, hplace⟩ := exists_onePerPlace_eq_singleton List.mem_cons_self hall
  refine ⟨r, ?_, hplace.trans hp.symm, ?_⟩
  · rw [List.append_assoc, List.singleton_append, onePerPlace_append_of_lt hps hlt, hr]
  · -- what is kept is the strongest of all, and `p` is one of them
    have hmem : r ∈ onePerPlace (p :: qs) := hr ▸ List.mem_singleton.mpr rfl
    have hle := (mem_onePerPlace_iff.mp hmem).2 p List.mem_cons_self (hp.trans hplace.symm)
    rcases Nat.lt_or_eq_of_le hle with hlt | heq
    · exact Or.inr ⟨hp, hlt⟩
    · exact Or.inl (Weight.rank_inj heq)

/-- Positions that are followed by others keep their places, and the others come after them as far as
there is room. -/
theorem settle_append_map_shift (hinc : Increasing ps) (hrange : InRange ps)
    (hfew : ps.length ≤ maxPositions) (hle : ∀ p ∈ ps, p.place ≤ m) (hqs : InRange qs) :
    ∃ kept, List.Forall₂ Position.Upheld ps kept ∧
      settle (ps ++ qs.map (.shift m)) = kept ++
        (newAmong ps (onePerPlace (qs.map (.shift m)))).take (maxPositions - ps.length) := by
  have hsub {q : Position} (hq : q ∈ onePerPlace (qs.map (.shift m))) : q ∈ qs.map (.shift m) :=
    (mem_onePerPlace_iff.mp hq).1
  by_cases hend : ∃ p ∈ ps, p.place = maxPlace
  · -- all that follow get to the end of the range, where the last position is already
    obtain ⟨p, hp, hplace⟩ := hend
    have hm : maxPlace ≤ m := hplace ▸ hle p hp
    have hmoved : ∀ q ∈ qs.map (Position.shift m), q.place = maxPlace := by
      intro q hq
      obtain ⟨r, -, rfl⟩ := List.mem_map.mp hq
      exact place_shift_of_le hm r
    have hnew : newAmong ps (onePerPlace (qs.map (.shift m))) = [] :=
      newAmong_eq_nil hp fun q hq => (hmoved q (hsub hq)).trans hplace.symm
    rcases List.eq_nil_or_concat ps with rfl | ⟨front, l, rfl⟩
    · cases hp
    · rw [List.concat_eq_append] at *
      have hl : l.place = maxPlace := by
        have hge := le_lastPlace hinc hp
        have hlrange := (hrange l (List.mem_append_right _ (List.mem_singleton.mpr rfl))).2
        rw [lastPlace_concat] at hge
        omega
      obtain ⟨r, hr, hlr⟩ := onePerPlace_append_end hinc hl hmoved
      refine ⟨front ++ [r], ?_, ?_⟩
      · exact List.rel_append (List.forall₂_same.mpr fun p _ => .refl p)
          (List.Forall₂.cons hlr List.Forall₂.nil)
      · rw [hnew, List.take_nil, List.append_nil, settle_eq, hr, List.take_of_length_le]
        simpa using hfew
  · -- all that follow come after all that were there
    have hlt : ∀ p ∈ ps, ∀ q ∈ qs.map (Position.shift m), p.place < q.place := by
      intro p hp q hq
      obtain ⟨r, hr, rfl⟩ := List.mem_map.mp hq
      have hpm := hle p hp
      have hpend : p.place ≠ maxPlace := fun heq => hend ⟨p, hp, heq⟩
      have hprange := (hrange p hp).2
      have hrpos := (hqs r hr).1
      have hmin := min_le_place_shift m r
      omega
    have hnew : newAmong ps (onePerPlace (qs.map (.shift m))) = onePerPlace (qs.map (.shift m)) :=
      newAmong_eq_self fun p hp q hq => hlt p hp q (hsub hq)
    refine ⟨ps, List.forall₂_same.mpr fun p _ => .refl p, ?_⟩
    rw [settle_eq, onePerPlace_append_of_lt hinc hlt, hnew, List.take_append,
      List.take_of_length_le hfew]

namespace SearchVector

variable {v w : SearchVector} {x : String}

/-! ## What a lexeme keeps -/

/-- The positions of a lexeme in the second vector, moved past the first one and into the range, the
strongest at each place. -/
def arriving (v w : SearchVector) (x : String) : List Position :=
  onePerPlace ((w.positionsOf x).map (.shift v.maxPosition))

/-- Positions are settled once, however they are put together. -/
theorem positionsOf_concat_eq_settle (hv : v.WellFormed) (hw : w.WellFormed) (x : String) :
    (v.concat w).positionsOf x =
      settle (v.positionsOf x ++ (w.positionsOf x).map (.shift v.maxPosition)) := by
  rw [positionsOf_concat hv hw, settle_append_right]

/-- The positions of a lexeme in the first vector stay in front. -/
theorem exists_upheld_concat (hv : v.WellFormed) (hw : w.WellFormed) (x : String) :
    ∃ kept, List.Forall₂ Position.Upheld (v.positionsOf x) kept ∧
      (v.concat w).positionsOf x = kept ++
        (newAmong (v.positionsOf x) (v.arriving w x)).take
          (maxPositions - (v.positionsOf x).length) := by
  obtain ⟨hrange, hinc, hfew⟩ := hv.positionsOf_ok x
  rw [positionsOf_concat_eq_settle hv hw]
  apply settle_append_map_shift hinc hrange hfew
  · intro p hp
    exact hv.place_le_of_mem hp
  · exact (hw.positionsOf_ok x).1

/-- **Nothing gets lost.** The lexemes of a concatenation are those of both vectors. The positions that a
lexeme has in the first vector stay in front, at their places and with their weights, or with a stronger
weight at the end of the range. After them come those of the second vector, moved past the first and
into the range, that are not at a place of the lexeme already: as many of the first of them as there is
room for. -/
theorem concat_keeps_history (hv : v.WellFormed) (hw : w.WellFormed) :
    (∀ x, x ∈ (v.concat w).lexemes ↔ x ∈ v.lexemes ∨ x ∈ w.lexemes) ∧
    ∀ x, ∃ kept, List.Forall₂ Position.Upheld (v.positionsOf x) kept ∧
      (v.concat w).positionsOf x = kept ++
        (newAmong (v.positionsOf x) (v.arriving w x)).take
          (maxPositions - (v.positionsOf x).length) := by
  constructor
  · intro x
    exact mem_lexemes_concat hv.ascending hw.ascending
  · exact exists_upheld_concat hv hw

/-- A vector that has come to the end of the range. -/
def lateWords : SearchVector :=
  ⟨[⟨"a", [⟨7, .d⟩, ⟨16383, .c⟩]⟩, ⟨"b", [⟨2, .d⟩]⟩]⟩

/-- A vector with some of the same words. -/
def laterWords : SearchVector :=
  ⟨[⟨"a", [⟨1, .b⟩, ⟨4, .a⟩]⟩, ⟨"b", [⟨1, .d⟩, ⟨2, .b⟩]⟩, ⟨"c", []⟩]⟩

theorem wellFormed_lateWords : lateWords.WellFormed := by
  decide

theorem wellFormed_laterWords : laterWords.WellFormed := by
  decide

theorem concat_lateWords : lateWords.concat laterWords =
    ⟨[⟨"a", [⟨7, .d⟩, ⟨16383, .a⟩]⟩, ⟨"b", [⟨2, .d⟩, ⟨16383, .b⟩]⟩, ⟨"c", []⟩]⟩ := by
  simp [concat, gather, settle, firstAtEachPlace, lateWords, laterWords, List.mergeSort, Entry.before,
    Entry.latestPlace, Entry.latest?, Position.before, Position.shift, Position.ofPlace, Weight.rank,
    maxPosition, maxPlace, maxPositions]

/-- All places of the later words get to the end of the range. There the first lexeme has a position
already, which becomes the strongest of those that meet there, and the second lexeme gets one. -/
theorem concat_keeps_history_late :
    (lateWords.concat laterWords).positionsOf "a" = [⟨7, .d⟩, ⟨16383, .a⟩] ∧
    (lateWords.concat laterWords).positionsOf "b" = [⟨2, .d⟩, ⟨16383, .b⟩] ∧
    "c" ∈ (lateWords.concat laterWords).lexemes ∧
    lateWords.arriving laterWords "a" = [⟨16383, .a⟩] ∧
    lateWords.arriving laterWords "b" = [⟨16383, .b⟩] ∧
    (∃ kept, List.Forall₂ Position.Upheld [⟨7, .d⟩, ⟨16383, .c⟩] kept ∧
      [⟨7, .d⟩, ⟨16383, .a⟩] = kept) ∧
    ∃ kept, List.Forall₂ Position.Upheld [⟨2, .d⟩] kept ∧
      [⟨2, .d⟩, ⟨16383, .b⟩] = kept ++ [⟨16383, .b⟩] := by
  obtain ⟨hlexemes, hpositions⟩ := concat_keeps_history wellFormed_lateWords wellFormed_laterWords
  have ha : (lateWords.concat laterWords).positionsOf "a" = [⟨7, .d⟩, ⟨16383, .a⟩] := by
    rw [concat_lateWords]
    rfl
  have hb : (lateWords.concat laterWords).positionsOf "b" = [⟨2, .d⟩, ⟨16383, .b⟩] := by
    rw [concat_lateWords]
    rfl
  have hlast : lateWords.maxPosition = 16383 := by decide
  have hanew : lateWords.arriving laterWords "a" = [⟨16383, .a⟩] := by
    rw [arriving, hlast, show laterWords.positionsOf "a" = [⟨1, .b⟩, ⟨4, .a⟩] from rfl]
    simp [onePerPlace, firstAtEachPlace, List.mergeSort, Position.before, Position.shift,
      Position.ofPlace, Weight.rank, maxPlace]
  have hbnew : lateWords.arriving laterWords "b" = [⟨16383, .b⟩] := by
    rw [arriving, hlast, show laterWords.positionsOf "b" = [⟨1, .d⟩, ⟨2, .b⟩] from rfl]
    simp [onePerPlace, firstAtEachPlace, List.mergeSort, Position.before, Position.shift,
      Position.ofPlace, Weight.rank, maxPlace]
  obtain ⟨akept, haup, haeq⟩ := hpositions "a"
  obtain ⟨bkept, hbup, hbeq⟩ := hpositions "b"
  rw [ha, hanew] at haeq
  rw [hb, hbnew] at hbeq
  refine ⟨ha, hb, (hlexemes "c").mpr (Or.inr (by decide)), hanew, hbnew, ⟨akept, haup, ?_⟩,
    ⟨bkept, hbup, hbeq⟩⟩
  exact haeq.trans (List.append_nil akept)

end SearchVector

end EventIntake
