import EventIntake.Proofs.Maintenance.Recency

/-!
# Recency within a text

With recent truncation the lexemes of a text are kept by their last occurrences in it, and before the
lexemes that were there already. This goes by places, so it ends where places end: a lexeme with too
many positions loses its latest ones, and all places beyond the range are the same. `recent_in_text`
says how far it goes, and `crowded_out` shows a lexeme that occurs last and is left out, though the
existing positions were compacted to make room.
-/

namespace EventIntake

namespace SearchVector

variable {v w : SearchVector} {x y : String}

/-! ## What the text follows -/

/-- A vector as another follows it with recent truncation: compacted, if positions would get lost
otherwise. -/
def base (v w : SearchVector) : SearchVector :=
  if v.concatIsLossless w then v else v.compact

/-- With recent truncation, a text follows the existing vector or the compacted one, and is
concatenated to it. -/
theorem follow_recent (v w : SearchVector) : v.follow w .recent = (v.base w).concat w := by
  simp only [follow, base]
  split <;> rfl

/-- Where there is nothing to be gained by compaction, the text follows the existing vector. -/
theorem base_of_compact (h : v.compact = v) (w : SearchVector) : v.base w = v := by
  rw [base, h, ite_self]

theorem WellFormed.base (hv : v.WellFormed) (w : SearchVector) : (v.base w).WellFormed := by
  rw [SearchVector.base]
  split
  · exact hv
  · exact hv.compact

/-- A lexeme with a place in the vector that follows has room for a position. -/
theorem countOf_base_lt (hv : v.WellFormed) (hw : w.WellFormed) (hx : 1 ≤ w.lastOf x) :
    (v.base w).countOf x < maxPositions := by
  rw [base]
  split
  next hlossless =>
    have hpos : 0 < w.countOf x := List.length_pos_of_ne_nil (positionsOf_ne_nil hx)
    have hroom := ((concatIsLossless_iff hv hw).mp hlossless).countOf_add_le hv hw x
    omega
  next => exact Nat.lt_of_le_of_lt (countOf_compact_le hv x) (by decide)

/-! ## A text after other lexemes -/

variable {p : Profile} {cs : List Char}

/-- Of two lexemes of a text the one that occurs last later has the later place, if it does not get too
many positions, and a place is left after that of the other. -/
theorem lastOf_lt_of_later (hv : v.WellFormed) (hx : x ∈ p.stream cs)
    (hlater : p.lastPlaceOf cs y < p.lastPlaceOf cs x)
    (hfew : v.countOf x + (p.stream cs).count x ≤ maxPositions)
    (hplace : v.maxPosition + p.lastPlaceOf cs y < maxPlace) :
    (v.concat (p.toVector cs)).lastOf y < (v.concat (p.toVector cs)).lastOf x := by
  have hin := p.wellFormed_toVector cs
  have hyle := lastOf_concat_le hv hin y
  have hylast := p.lastOf_toVector_le cs y
  have hcount := p.countOf_toVector_le cs x
  have hxlast := Profile.le_lastOf_toVector hx (by omega)
  have hxle := le_lastOf_concat hv hin (Profile.lastOf_toVector_pos hx) (by omega)
  omega

/-- A lexeme of a text has a later place than one that is not in it, if there is any place left, and
room for a position. -/
theorem lastOf_lt_of_new (hv : v.WellFormed) (hx : x ∈ p.stream cs) (hy : y ∉ p.stream cs)
    (hplace : v.maxPosition < maxPlace) (hroom : v.countOf x < maxPositions) :
    (v.concat (p.toVector cs)).lastOf y < (v.concat (p.toVector cs)).lastOf x := by
  have hin := p.wellFormed_toVector cs
  have hxlt := lt_lastOf_concat hv hin (Profile.lastOf_toVector_pos hx) hplace hroom
  have hyle := lastOf_concat_le hv hin y
  have hzero : (p.toVector cs).lastOf y = 0 :=
    lastOf_eq_zero_of_not_mem fun hmem => hy (Profile.mem_lexemes_toVector.mp hmem)
  omega

/-! ## Appends -/

/-- **Recency within a text.** After an append with recent truncation that leaves lexemes out, if of
two lexemes of the text the one that occurs last earlier is kept, so is the other, as long as it does
not get too many positions, and there is a place left after the earlier one. And if a lexeme is kept
that was there before and is not in the text, so are all of the text, as long as there is a place left
for them. -/
theorem recent_in_text (existing : SearchVector) (text : List Char) (n : Nat) (p : Profile)
    (limits : IndexLimits) (hv : existing.WellFormed) (hrecent : limits.truncation = .recent)
    (k : Nat) (hout : (existing.append text n p limits).outcome = .truncated k) :
    let read := Text.Utf8.takeBytes limits.maxInputBytes text
    let base := existing.base (p.toVector read)
    let kept := (existing.append text n p limits).vector.lexemes
    (∀ x ∈ p.stream read, ∀ y ∈ p.stream read, p.lastPlaceOf read y < p.lastPlaceOf read x →
      base.countOf x + (p.stream read).count x ≤ maxPositions →
      base.maxPosition + p.lastPlaceOf read y < maxPlace →
      y ∈ kept → x ∈ kept) ∧
    (base.maxPosition < maxPlace →
      ∀ x ∈ p.stream read, ∀ z ∈ existing.lexemes, z ∉ p.stream read → z ∈ kept → x ∈ kept) := by
  intro read base kept
  have hin : (p.toVector read).WellFormed := p.wellFormed_toVector read
  have hbase : base.WellFormed := hv.base _
  have hcombined : existing.combined text p limits = base.concat (p.toVector read) := by
    rw [combined, hrecent, follow_recent]
    rfl
  have hkept : kept = ((base.concat (p.toVector read)).truncate n .recent).lexemes := by
    have hsat : (existing.append text n p limits).outcome ≠ .saturated := by simp [hout]
    have hover : (existing.append text n p limits).outcome ≠ .oversized := by simp [hout]
    have heq := (appending existing text n p limits).lexemes_eq hsat hover
    rwa [SearchVector.kept, hcombined, hrecent] at heq
  have hmem {x : String} (hx : x ∈ p.stream read) :
      x ∈ (base.concat (p.toVector read)).lexemes :=
    (mem_lexemes_concat hbase.ascending hin.ascending).mpr
      (Or.inr (Profile.mem_lexemes_toVector.mpr hx))
  have hasc := (hbase.concat hin).ascending
  rw [hkept]
  constructor
  · intro x hx y hy hlater hfew hplace hkeep
    have hlt := lastOf_lt_of_later hbase hx hlater hfew hplace
    exact mem_truncate_of_lastOf_lt hasc (hmem hx) hkeep hlt
  · intro hplace x hx z hz hnot hkeep
    have hroom := countOf_base_lt hv hin (Profile.lastOf_toVector_pos hx)
    have hlt := lastOf_lt_of_new hbase hx hnot hplace hroom
    exact mem_truncate_of_lastOf_lt hasc (hmem hx) hkeep hlt

/-- Two lexemes that occurred one after the other. -/
def twoPlaced : SearchVector := ⟨[⟨"a", [⟨1, .d⟩]⟩, ⟨"z", [⟨2, .d⟩]⟩]⟩

/-- An append of a text with two more when only three lexemes are to be kept. -/
abbrev appendBetween : AppendResult :=
  twoPlaced.append "c b c".toList 3 Configuration.simple.profile recentLimits

/-- The vector of the text. -/
def between : SearchVector := ⟨[⟨"b", [⟨2, .d⟩]⟩, ⟨"c", [⟨1, .d⟩, ⟨3, .d⟩]⟩]⟩

theorem incoming_between :
    incoming "c b c".toList Configuration.simple.profile recentLimits = between := by
  have hread : (Configuration.simple.profile.occurrences
      (Text.Utf8.takeBytes recentLimits.maxInputBytes "c b c".toList)).map
        (fun t => (⟨t.1, [.ofPlace t.2 .d]⟩ : Entry)) =
      [⟨"c", [⟨1, .d⟩]⟩, ⟨"b", [⟨2, .d⟩]⟩, ⟨"c", [⟨3, .d⟩]⟩] := by
    decide
  rw [incoming, Profile.toVector_eq, hread]
  simp [ofEntries, gather, settle, firstAtEachPlace, between, List.mergeSort, Entry.before,
    Position.before, maxPositions]

/-- There is room for the text, so the existing positions are not compacted. -/
theorem concatIsLossless_between : twoPlaced.concatIsLossless between = true := by
  simp [concatIsLossless, gather, twoPlaced, between, Entry.before, Entry.latestPlace, Entry.latest?,
    maxPosition, maxPlace, maxPositions]

/-- The lexeme of the text that occurs twice is the freshest, and the other one has occurred in
between. -/
theorem combined_between :
    twoPlaced.combined "c b c".toList Configuration.simple.profile recentLimits =
      ⟨[⟨"a", [⟨1, .d⟩]⟩, ⟨"b", [⟨4, .d⟩]⟩, ⟨"c", [⟨3, .d⟩, ⟨5, .d⟩]⟩, ⟨"z", [⟨2, .d⟩]⟩]⟩ := by
  rw [combined, incoming_between, show recentLimits.truncation = .recent from rfl, follow,
    if_pos concatIsLossless_between]
  simp [concat, gather, settle, firstAtEachPlace, twoPlaced, between, List.mergeSort, Entry.before,
    Entry.latestPlace, Entry.latest?, Position.before, Position.shift, Position.ofPlace, maxPosition,
    maxPlace, maxPositions]

/-- The lexeme that occurred first is left out. -/
theorem kept_between :
    twoPlaced.kept "c b c".toList 3 Configuration.simple.profile recentLimits =
      ⟨[⟨"b", [⟨4, .d⟩]⟩, ⟨"c", [⟨3, .d⟩, ⟨5, .d⟩]⟩, ⟨"z", [⟨2, .d⟩]⟩]⟩ := by
  rw [kept, combined_between]
  simp [truncate, takeFreshest, fresher, recentLimits, List.mergeSort, Entry.before,
    Entry.latestPlace, Entry.latest?, size]

/-- The later of the existing lexemes is kept. So is the one of the text that occurs between the
occurrences of the other, and with it the other. -/
theorem recent_in_text_between :
    appendBetween.outcome = .truncated 1 ∧
    "b" ∈ appendBetween.vector.lexemes ∧ "c" ∈ appendBetween.vector.lexemes := by
  have hv : twoPlaced.WellFormed := by decide
  have hout : appendBetween.outcome = .truncated 1 := by
    rw [appendBetween, append_eq, evicted, kept_between, combined_between]
    decide
  have hlast : appendBetween.vector.lexemes.getLast? = some "z" := by
    rw [appendBetween, append_eq, evicted, kept_between, combined_between]
    decide
  have hlossless : twoPlaced.concatIsLossless (Configuration.simple.profile.toVector
      (Text.Utf8.takeBytes recentLimits.maxInputBytes "c b c".toList)) = true := by
    rw [← concatIsLossless_between, ← incoming_between]
    rfl
  obtain ⟨hlater, hexisting⟩ := recent_in_text twoPlaced "c b c".toList 3
    Configuration.simple.profile recentLimits hv rfl 1 hout
  rw [base, if_pos hlossless] at hlater hexisting
  have hb : "b" ∈ appendBetween.vector.lexemes :=
    hexisting (by decide) "b" (by decide) "z" (by decide) (by decide)
      (List.mem_of_getLast? hlast)
  refine ⟨hout, hb, hlater "c" (by decide) "b" (by decide) ?_ ?_ ?_ hb⟩
  · decide
  · decide
  · decide

/-! ## Too many positions -/

/-- A lexeme that occurred once. -/
def once : SearchVector := ⟨[⟨"a", [⟨1, .d⟩]⟩]⟩

/-- A text in which it occurs as often as a lexeme may have positions, the last time after another. -/
def crowd : List Char :=
  (List.replicate 255 ['a', ' ']).flatten ++ ['b', ' ', 'a']

/-- An append of the text when only one lexeme is to be kept. -/
abbrev crowdedAppend : AppendResult :=
  once.append crowd 1 Configuration.simple.profile recentLimits

theorem wellFormed_once : once.WellFormed := by
  decide

/-- There is nothing to be gained by compaction. -/
theorem compact_once : once.compact = once := by
  refine wellFormed_once.compact.ext wellFormed_once fun x => ?_
  rw [wellFormed_once.positions?_compact]
  rcases hx : once.positions? x with _ | ps
  · rfl
  · have hentry := List.mem_singleton.mp (mem_of_lookup hx)
    obtain ⟨-, rfl⟩ := Entry.mk.inj hentry
    have hrank : once.rank 1 = 1 := by decide
    rw [Option.map_some, compacted_singleton, hrank]

/-- The words of the text and its lexemes, which occur where they should. -/
theorem placesOf_crowd :
    (Analysis.words crowd).length = 257 ∧
      Configuration.simple.profile.stream crowd = List.replicate 255 "a" ++ ["b", "a"] ∧
      Configuration.simple.profile.placesOf crowd "a" = List.range' 1 255 ++ [257] ∧
      Configuration.simple.profile.placesOf crowd "b" = [256] :=
  ⟨by decide +kernel, by decide +kernel, by decide +kernel, by decide +kernel⟩

/-- The text has as many places for the one as there may be positions, and one for the other. -/
theorem positionsOf_crowd :
    (Configuration.simple.profile.toVector crowd).positionsOf "a" =
        (List.range' 1 255 ++ [257]).map (fun n => ⟨n, .d⟩) ∧
      (Configuration.simple.profile.toVector crowd).positionsOf "b" = [⟨256, .d⟩] := by
  obtain ⟨hwords, -, ha, hb⟩ := placesOf_crowd
  have hlen : (Analysis.words crowd).length ≤ maxPlace := by
    rw [hwords]
    decide
  constructor
  · have hfew : (Configuration.simple.profile.stream crowd).count "a" ≤ maxPositions := by
      rw [← Profile.length_placesOf, ha]
      decide +kernel
    rw [Profile.positionsOf_toVector_of_few hlen hfew, ha]
  · have hfew : (Configuration.simple.profile.stream crowd).count "b" ≤ maxPositions := by
      rw [← Profile.length_placesOf, hb]
      decide
    rw [Profile.positionsOf_toVector_of_few hlen hfew, hb]
    rfl

/-- The existing position and the places of the text are one too many, so the last is dropped, and the
other lexeme comes after all that are left. -/
theorem ranked_crowd :
    (once.concat (Configuration.simple.profile.toVector crowd)).Ranked ["b", "a"] := by
  obtain ⟨ha, hb⟩ := positionsOf_crowd
  obtain ⟨hwords, hstream, -⟩ := placesOf_crowd
  have hwf := Configuration.simple.profile.wellFormed_toVector crowd
  have hreach : once.maxPosition +
      (Configuration.simple.profile.toVector crowd).maxPosition ≤ maxPlace := by
    have hmax := Configuration.simple.profile.maxPosition_toVector_le crowd
    rw [hwords] at hmax
    exact Nat.le_trans (Nat.add_le_add_left hmax _) (by decide)
  have hlasta : (once.concat (Configuration.simple.profile.toVector crowd)).lastOf "a" = 256 := by
    have hboth := positionsOf_concat_of_reach hreach wellFormed_once hwf "a"
    rw [followed, ha] at hboth
    rw [lastOf, ← positionsOf, hboth]
    decide +kernel
  have hlastb : 257 ≤ (once.concat (Configuration.simple.profile.toVector crowd)).lastOf "b" := by
    have hlast : (Configuration.simple.profile.toVector crowd).lastOf "b" = 256 :=
      congrArg lastPlace hb
    have hcount : (Configuration.simple.profile.toVector crowd).countOf "b" = 1 :=
      congrArg List.length hb
    have hpos : 1 ≤ (Configuration.simple.profile.toVector crowd).lastOf "b" := by omega
    have hle := le_lastOf_concat wellFormed_once hwf hpos (by rw [hcount]; decide)
    have hmin : min (once.maxPosition + 256) maxPlace = 257 := by decide
    rwa [hlast, hmin] at hle
  refine ⟨fun x => ?_, fun x hx => ?_, ?_⟩
  · rw [mem_lexemes_concat wellFormed_once.ascending hwf.ascending, Profile.mem_lexemes_toVector,
      hstream, List.mem_append, List.mem_replicate]
    have honce : x ∈ once.lexemes ↔ x = "a" := List.mem_singleton
    rw [honce, List.mem_pair]
    constructor
    · exact fun hx => Or.inr (Or.inr hx)
    · rintro (rfl | ⟨-, rfl⟩ | hx)
      · exact Or.inr rfl
      · exact Or.inr rfl
      · exact hx
  · rcases List.mem_cons.mp hx with rfl | hx
    · omega
    · rw [List.mem_singleton.mp hx]
      omega
  · refine List.pairwise_pair.mpr ?_
    omega

/-- **A lexeme that occurs last is left out.** It has one position and gets as many as there may be.
The existing positions are compacted for that, but one position stays, so that its last occurrence
has no room, and the other lexeme of the text passes for the latest. -/
theorem crowded_out :
    crowdedAppend.outcome = .truncated 1 ∧
    crowdedAppend.vector = once.kept crowd 1 Configuration.simple.profile recentLimits ∧
    "a" ∈ Configuration.simple.profile.stream crowd ∧
    "b" ∈ Configuration.simple.profile.stream crowd ∧
    Configuration.simple.profile.lastPlaceOf crowd "b" <
      Configuration.simple.profile.lastPlaceOf crowd "a" ∧
    "b" ∈ crowdedAppend.vector.lexemes ∧ "a" ∉ crowdedAppend.vector.lexemes := by
  obtain ⟨-, hstream, ha, hb⟩ := placesOf_crowd
  have hwf := wellFormed_once.concat (Configuration.simple.profile.wellFormed_toVector crowd)
  have hcombined : once.combined crowd Configuration.simple.profile recentLimits =
      once.concat (Configuration.simple.profile.toVector crowd) := by
    rw [combined, incoming_of_size_le (by decide +kernel)]
    change once.follow _ .recent = _
    rw [follow_recent, base_of_compact compact_once]
  have hkept : (once.kept crowd 1 Configuration.simple.profile recentLimits).Ranked ["b"] := by
    rw [kept, hcombined]
    exact ranked_crowd.truncate hwf 1
  have hkeptwf : (once.kept crowd 1 Configuration.simple.profile recentLimits).WellFormed :=
    wellFormed_kept wellFormed_once
  have hcase : Appending once crowd 1 Configuration.simple.profile recentLimits crowdedAppend :=
    appending _ _ _ _ _
  have hbytes : once.byteSize ≤ recentLimits.maxVectorBytes := by decide
  have hroom : 8 + maxEntryBytes * 1 ≤ recentLimits.maxVectorBytes := by decide
  have hvector : crowdedAppend.vector = once.kept crowd 1 Configuration.simple.profile recentLimits :=
    hcase.eq_kept hbytes (hkeptwf.byteSize_le_of_room (size_kept_le _ _ _ _ _) hroom)
  have hevicted : once.evicted crowd 1 Configuration.simple.profile recentLimits = 1 := by
    rw [evicted, hcombined, ← ranked_crowd.length_eq hwf, ← hkept.length_eq hkeptwf]
    rfl
  obtain ⟨hsat, hover⟩ := hcase.accepted_of_room wellFormed_once hbytes hroom
  refine ⟨?_, hvector, ?_, ?_, ?_, ?_, ?_⟩
  · rw [hcase.outcome_eq_truncated hsat hover (by omega), hevicted]
  · rw [hstream]
    exact List.mem_append_right _ (List.mem_pair.mpr (Or.inr rfl))
  · rw [hstream]
    exact List.mem_append_right _ (List.mem_pair.mpr (Or.inl rfl))
  · rw [Profile.lastPlaceOf, Profile.lastPlaceOf, ha, hb, List.getLast?_concat]
    decide
  · rw [hvector]
    exact (hkept.mem "b").mp (List.mem_singleton.mpr rfl)
  · rw [hvector, ← hkept.mem, List.mem_singleton]
    decide

end SearchVector

end EventIntake
