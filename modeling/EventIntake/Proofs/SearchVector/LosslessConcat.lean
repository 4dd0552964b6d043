import EventIntake.Proofs.SearchVector.LatestPlace

/-!
# Concatenation without losses

When nothing gets lost, a lexeme of a concatenation has its positions in the first vector `followed`
by those in the second, each moved by the greatest place of the first. `concatIsLossless` looks at
greatest places and numbers of positions only, and holds exactly then (`lossless_exact`). Both of these
add up in a lossless concatenation (`Lossless.maxPosition_concat`, `Lossless.countOf_concat`), so it is
associative as far as nothing gets lost, and the empty vector is its unit (`concat_monoid`).
-/

namespace EventIntake.SearchVector

variable {u v w : SearchVector} {x : String}

/-! ## Moving by a number of places -/

theorem movedBy_zero (ps : List Position) : movedBy 0 ps = ps :=
  List.map_id ps

theorem movedBy_append (m : Nat) (ps qs : List Position) :
    movedBy m (ps ++ qs) = movedBy m ps ++ movedBy m qs :=
  List.map_append

/-- Moving twice is moving by the sum. Places are not moved into the range here, so there is no
condition. -/
theorem movedBy_movedBy (m n : Nat) (ps : List Position) :
    movedBy m (movedBy n ps) = movedBy (m + n) ps := by
  rw [movedBy, movedBy, movedBy, List.map_map]
  refine List.map_congr_left fun p _ => ?_
  simp only [Function.comp_apply]
  rw [Nat.add_right_comm, Nat.add_assoc]

/-! ## When nothing gets lost -/

/-- Whether anything gets lost is a matter of greatest places and numbers of positions. Weights and
the places in between have no part in it. -/
theorem lossless_iff (hv : v.WellFormed) (hw : w.WellFormed) :
    v.Lossless w ↔ v.maxPosition + w.maxPosition ≤ maxPlace ∧
      ∀ x, v.countOf x + w.countOf x ≤ maxPositions := by
  constructor
  · exact fun h => ⟨h.reach, h.countOf_add_le hv hw⟩
  · rintro ⟨hreach, hcount⟩
    refine ⟨hreach, fun x ps qs hps hqs => ?_⟩
    have hx := hcount x
    rwa [countOf_eq hps, countOf_eq hqs] at hx

/-- If all lexemes of a concatenation have all their positions, it is lossless. -/
theorem lossless_of_positions (hv : v.WellFormed) (hw : w.WellFormed)
    (h : ∀ x ∈ (v.concat w).lexemes, (v.concat w).positions? x = some (v.followed w x)) :
    v.Lossless w := by
  -- a lexeme that is in neither vector has all its positions too
  have hall (x : String) : (v.concat w).positionsOf x = v.followed w x := by
    by_cases hx : x ∈ (v.concat w).lexemes
    · exact positionsOf_eq (h x hx)
    · obtain ⟨hxv, hxw⟩ :=
        not_or.mp (mt (mem_lexemes_concat hv.ascending hw.ascending).mpr hx)
      rw [followed, positionsOf_eq_nil (positions?_eq_none hx),
        positionsOf_eq_nil (positions?_eq_none hxv), positionsOf_eq_nil (positions?_eq_none hxw)]
      rfl
  have hok (x : String) := (hv.concat hw).positionsOf_ok x
  simp only [hall, followed] at hok
  refine (lossless_iff hv hw).mpr ⟨?_, fun x => ?_⟩
  · -- where a position of the second vector gets to is in range
    have hle : w.maxPosition ≤ maxPlace - v.maxPosition := by
      refine maxPosition_le_of_lastOf hw.ascending fun x => lastOf_le fun q hq => ?_
      have hmoved : (⟨q.place + v.maxPosition, q.weight⟩ : Position) ∈
          movedBy v.maxPosition (w.positionsOf x) :=
        List.mem_map.mpr ⟨q, hq, rfl⟩
      have hrange := ((hok x).1 _ (List.mem_append_right _ hmoved)).2
      simp only at hrange
      omega
    have hmax := hv.maxPosition_le
    omega
  · have hfew := (hok x).2.2
    rwa [List.length_append, movedBy, List.length_map] at hfew

/-- **Lossless concatenation.** A concatenation has the lexemes of both vectors, and `concatIsLossless`
holds if and only if each of them has its positions in the first vector, followed by those in the
second, moved by the greatest place of the first, with their weights. -/
theorem lossless_exact (hv : v.WellFormed) (hw : w.WellFormed) :
    (∀ x, x ∈ (v.concat w).lexemes ↔ x ∈ v.lexemes ∨ x ∈ w.lexemes) ∧
    (v.concatIsLossless w = true ↔
      ∀ x ∈ (v.concat w).lexemes, (v.concat w).positions? x = some (v.followed w x)) := by
  refine ⟨fun x => mem_lexemes_concat hv.ascending hw.ascending, ?_⟩
  rw [concatIsLossless_iff hv hw]
  constructor
  · intro h x hx
    rw [positions?_eq_some_positionsOf hx, h.positionsOf_concat hv hw]
  · exact lossless_of_positions hv hw

/-- A vector with weights and with a lexeme without positions. -/
def mixed : SearchVector := ⟨[⟨"a", [⟨1, .d⟩, ⟨3, .b⟩]⟩, ⟨"b", []⟩, ⟨"c", [⟨5, .d⟩]⟩]⟩

/-- A vector with some of the lexemes of the mixed one. -/
def mixedAgain : SearchVector := ⟨[⟨"a", [⟨3, .a⟩]⟩, ⟨"b", [⟨1, .c⟩]⟩, ⟨"d", []⟩]⟩

/-- A vector whose lexeme stands at the end of the range. -/
def atTheEnd : SearchVector := ⟨[⟨"b", [⟨16383, .d⟩]⟩]⟩

theorem wellFormed_mixed : mixed.WellFormed := by
  decide

theorem wellFormed_mixedAgain : mixedAgain.WellFormed := by
  decide

theorem wellFormed_atTheEnd : atTheEnd.WellFormed := by
  decide

/-- The places of the first vector go up to 5, so those of the second start behind that. -/
theorem concat_mixed : mixed.concat mixedAgain =
    ⟨[⟨"a", [⟨1, .d⟩, ⟨3, .b⟩, ⟨8, .a⟩]⟩, ⟨"b", [⟨6, .c⟩]⟩, ⟨"c", [⟨5, .d⟩]⟩, ⟨"d", []⟩]⟩ := by
  simp [concat, gather, settle, firstAtEachPlace, mixed, mixedAgain, List.mergeSort, Entry.before,
    Entry.latestPlace, Entry.latest?, Position.before, Position.shift, Position.ofPlace, Weight.rank,
    maxPosition, maxPlace, maxPositions]

theorem concatIsLossless_mixed : mixed.concatIsLossless mixedAgain = true := by
  simp [concatIsLossless, gather, mixed, mixedAgain, Entry.before, Entry.latestPlace, Entry.latest?,
    maxPosition, maxPlace, maxPositions]

/-- The mixed vectors are concatenated without losses, so the positions of a lexeme are known. At the
end of the range a position is lost, so the concatenation is not lossless. -/
theorem lossless_exact_mixed :
    mixed.concatIsLossless mixedAgain = true ∧
    (mixed.concat mixedAgain).positions? "a" = some [⟨1, .d⟩, ⟨3, .b⟩, ⟨8, .a⟩] ∧
    (atTheEnd.concat mixedAgain).positions? "b" = some [⟨16383, .c⟩] ∧
    atTheEnd.concatIsLossless mixedAgain = false := by
  obtain ⟨hlexemes, hexact⟩ := lossless_exact wellFormed_mixed wellFormed_mixedAgain
  obtain ⟨-, hexact'⟩ := lossless_exact wellFormed_atTheEnd wellFormed_mixedAgain
  have hend : (atTheEnd.concat mixedAgain).positions? "b" = some [⟨16383, .c⟩] := by
    simp [concat, gather, settle, firstAtEachPlace, atTheEnd, mixedAgain, List.mergeSort,
      Entry.before, Entry.latestPlace, Entry.latest?, Position.before, Position.shift,
      Position.ofPlace, Weight.rank, maxPosition, maxPlace, maxPositions, positions?]
  refine ⟨concatIsLossless_mixed, ?_, hend, ?_⟩
  · exact hexact.mp concatIsLossless_mixed "a" ((hlexemes "a").mpr (by decide))
  · refine Bool.eq_false_iff.mpr fun htrue => ?_
    have hb := hexact'.mp htrue "b" (mem_lexemes_iff.mpr (by rw [hend]; rfl))
    rw [hend] at hb
    exact absurd (congrArg (Option.map List.length) hb) (by decide)

/-! ## Units and associativity -/

/-- Without loss, a lexeme has as many positions in the concatenation as in both
vectors together. -/
theorem Lossless.countOf_concat (h : v.Lossless w) (hv : v.WellFormed) (hw : w.WellFormed)
    (x : String) : (v.concat w).countOf x = v.countOf x + w.countOf x := by
  have hlength := congrArg List.length (h.positionsOf_concat hv hw x)
  rwa [followed, List.length_append, movedBy, List.length_map] at hlength

/-- No lexeme of the first vector comes earlier in a lossless concatenation. -/
theorem Lossless.lastOf_le_concat (h : v.Lossless w) (hv : v.WellFormed) (hw : w.WellFormed)
    (x : String) : v.lastOf x ≤ (v.concat w).lastOf x := by
  rcases Nat.eq_zero_or_pos (w.lastOf x) with hx | hx
  · exact Nat.le_of_eq (lastOf_concat_of_eq_zero hv hw hx).symm
  · rw [lastOf_concat h hv hw hx]
    exact Nat.le_trans (lastOf_le_maxPosition v x) (Nat.le_add_left _ _)

/-- The greatest places add up. -/
theorem Lossless.maxPosition_concat (h : v.Lossless w) (hv : v.WellFormed) (hw : w.WellFormed) :
    (v.concat w).maxPosition = v.maxPosition + w.maxPosition := by
  have hboth : (v.concat w).WellFormed := hv.concat hw
  refine Nat.le_antisymm ?_ ?_
  · refine maxPosition_le_of_lastOf hboth.ascending fun x => ?_
    exact Nat.le_trans (lastOf_concat_le hv hw x)
      (Nat.add_le_add_left (lastOf_le_maxPosition w x) _)
  · have hfirst : v.maxPosition ≤ (v.concat w).maxPosition :=
      maxPosition_le_of_lastOf hv.ascending fun x =>
        Nat.le_trans (h.lastOf_le_concat hv hw x) (lastOf_le_maxPosition _ x)
    have hsecond : w.maxPosition ≤ (v.concat w).maxPosition - v.maxPosition := by
      refine maxPosition_le_of_lastOf hw.ascending fun x => ?_
      rcases Nat.eq_zero_or_pos (w.lastOf x) with hx | hx
      · rw [hx]
        exact Nat.zero_le _
      · have hlast := lastOf_concat h hv hw hx
        have hle := lastOf_le_maxPosition (v.concat w) x
        omega
    omega

theorem maxPosition_empty : empty.maxPosition = 0 := rfl

theorem lossless_empty_left (hv : v.WellFormed) : empty.Lossless v := by
  refine ⟨?_, fun x ps qs hps _ => ?_⟩
  · rw [maxPosition_empty, Nat.zero_add]
    exact hv.maxPosition_le
  · cases hps

theorem lossless_empty_right (hv : v.WellFormed) : v.Lossless empty := by
  refine ⟨hv.maxPosition_le, fun x ps qs _ hqs => ?_⟩
  cases hqs

/-- The vector without lexemes is a left unit of concatenation. Only well-formed vectors are left as
they are: others would be settled. -/
theorem empty_concat (hv : v.WellFormed) : empty.concat v = v := by
  refine (wellFormed_empty.concat hv).ext_positionsOf hv (fun x => ?_) fun x => ?_
  · rw [mem_lexemes_concat wellFormed_empty.ascending hv.ascending]
    exact or_iff_right List.not_mem_nil
  · rw [(lossless_empty_left hv).positionsOf_concat wellFormed_empty hv, followed,
      maxPosition_empty, movedBy_zero]
    rfl

/-- The vector without lexemes is a right unit of concatenation. -/
theorem concat_empty (hv : v.WellFormed) : v.concat empty = v := by
  refine (hv.concat wellFormed_empty).ext_positionsOf hv (fun x => ?_) fun x => ?_
  · rw [mem_lexemes_concat hv.ascending wellFormed_empty.ascending]
    exact or_iff_left List.not_mem_nil
  · rw [(lossless_empty_right hv).positionsOf_concat hv wellFormed_empty, followed]
    exact List.append_nil _

section Assoc

variable (hu : u.WellFormed) (hv : v.WellFormed) (hw : w.WellFormed) (huv : u.Lossless v)
  (huvw : (u.concat v).Lossless w)

include hu hv hw huv huvw

/-- What can follow two vectors can follow the second of them. -/
theorem Lossless.of_concat_left : v.Lossless w := by
  obtain ⟨hreach, hcount⟩ := (lossless_iff (hu.concat hv) hw).mp huvw
  refine (lossless_iff hv hw).mpr ⟨?_, fun x => ?_⟩
  · rw [huv.maxPosition_concat hu hv] at hreach
    omega
  · have hx := hcount x
    rw [huv.countOf_concat hu hv] at hx
    omega

/-- If vectors can follow one another, the later ones can do so as one. -/
theorem Lossless.concat_right : u.Lossless (v.concat w) := by
  have hvw : v.Lossless w := Lossless.of_concat_left hu hv hw huv huvw
  obtain ⟨hreach, hcount⟩ := (lossless_iff (hu.concat hv) hw).mp huvw
  refine (lossless_iff hu (hv.concat hw)).mpr ⟨?_, fun x => ?_⟩
  · rw [huv.maxPosition_concat hu hv] at hreach
    rw [hvw.maxPosition_concat hv hw]
    omega
  · have hx := hcount x
    rw [huv.countOf_concat hu hv] at hx
    rw [hvw.countOf_concat hv hw]
    omega

/-- Without losses, three vectors can be concatenated from either side. The positions of a lexeme
are compared in both, which are those of the three vectors moved by the same numbers of places. -/
theorem Lossless.concat_assoc : (u.concat v).concat w = u.concat (v.concat w) := by
  have hvw : v.Lossless w := Lossless.of_concat_left hu hv hw huv huvw
  have huall : u.Lossless (v.concat w) := Lossless.concat_right hu hv hw huv huvw
  refine ((hu.concat hv).concat hw).ext_positionsOf (hu.concat (hv.concat hw))
    (fun x => ?_) fun x => ?_
  · rw [mem_lexemes_concat (hu.concat hv).ascending hw.ascending,
      mem_lexemes_concat hu.ascending hv.ascending,
      mem_lexemes_concat hu.ascending (hv.concat hw).ascending,
      mem_lexemes_concat hv.ascending hw.ascending, or_assoc]
  · calc ((u.concat v).concat w).positionsOf x
        = u.followed v x ++ movedBy (u.maxPosition + v.maxPosition) (w.positionsOf x) := by
          rw [huvw.positionsOf_concat (hu.concat hv) hw, followed, huv.positionsOf_concat hu hv,
            huv.maxPosition_concat hu hv]
      _ = u.positionsOf x ++ movedBy u.maxPosition (v.followed w x) := by
          rw [followed, followed, movedBy_append, movedBy_movedBy, List.append_assoc]
      _ = u.followed (v.concat w) x := by
          rw [← hvw.positionsOf_concat hv hw]
          rfl
      _ = (u.concat (v.concat w)).positionsOf x :=
          (huall.positionsOf_concat hu (hv.concat hw) x).symm

end Assoc

/-- **Concatenation is a monoid where nothing gets lost.** The empty vector may be concatenated on
either side, which changes nothing. If two vectors and then a third can be concatenated without losses,
so can the last two, and then the first with both, and it comes to the same. -/
theorem concat_monoid :
    (∀ v : SearchVector, v.WellFormed → empty.concat v = v ∧ v.concat empty = v) ∧
    ∀ u v w : SearchVector, u.WellFormed → v.WellFormed → w.WellFormed →
      u.concatIsLossless v = true → (u.concat v).concatIsLossless w = true →
      v.concatIsLossless w = true ∧ u.concatIsLossless (v.concat w) = true ∧
      (u.concat v).concat w = u.concat (v.concat w) := by
  refine ⟨fun v hv => ⟨empty_concat hv, concat_empty hv⟩, fun u v w hu hv hw huv huvw => ?_⟩
  rw [concatIsLossless_iff hu hv] at huv
  rw [concatIsLossless_iff (hu.concat hv) hw] at huvw
  rw [concatIsLossless_iff hv hw, concatIsLossless_iff hu (hv.concat hw)]
  exact ⟨Lossless.of_concat_left hu hv hw huv huvw, Lossless.concat_right hu hv hw huv huvw,
    Lossless.concat_assoc hu hv hw huv huvw⟩

/-- Three vectors that share lexemes, one after the other. The first two are concatenated without
losses, and so is the result with the third. -/
theorem concat_monoid_mixed :
    empty.concat mixed = mixed ∧ mixed.concat empty = mixed ∧
    mixed.concatIsLossless mixedAgain = true ∧
    (mixed.concat mixedAgain).concatIsLossless mixed = true ∧
    mixed.concat (mixedAgain.concat mixed) =
      ⟨[⟨"a", [⟨1, .d⟩, ⟨3, .b⟩, ⟨8, .a⟩, ⟨9, .d⟩, ⟨11, .b⟩]⟩, ⟨"b", [⟨6, .c⟩]⟩,
        ⟨"c", [⟨5, .d⟩, ⟨13, .d⟩]⟩, ⟨"d", []⟩]⟩ := by
  have hthen : (mixed.concat mixedAgain).concatIsLossless mixed = true := by
    rw [concat_mixed]
    simp [concatIsLossless, gather, mixed, Entry.before, Entry.latestPlace, Entry.latest?,
      maxPosition, maxPlace, maxPositions]
  obtain ⟨hleft, hright⟩ := concat_monoid.1 mixed wellFormed_mixed
  obtain ⟨-, -, hassoc⟩ := concat_monoid.2 mixed mixedAgain mixed wellFormed_mixed
    wellFormed_mixedAgain wellFormed_mixed concatIsLossless_mixed hthen
  refine ⟨hleft, hright, concatIsLossless_mixed, hthen, ?_⟩
  rw [← hassoc, concat_mixed]
  simp [concat, gather, settle, firstAtEachPlace, mixed, List.mergeSort, Entry.before,
    Entry.latestPlace, Entry.latest?, Position.before, Position.shift, Position.ofPlace, Weight.rank,
    maxPosition, maxPlace, maxPositions]

end EventIntake.SearchVector
