import EventIntake.Proofs.Analysis.Stream
import EventIntake.Proofs.SearchVector.LatestPlace

/-!
# The vector of joined texts

The words of a text that comes after another keep counting where the other stopped, so the places of
its lexemes are moved on by the number of words before (`placesOf_append_blank`). Concatenation moves
them on by the greatest place of the first vector. Where this is the place of the last word, as far as
places go, the vector of the joined texts is the concatenation of their vectors
(`toVector_append_blank`), with all that is moved to the end of the range and all that is left out.
-/

namespace EventIntake.Profile

open Analysis

/-- The lexemes of a text that comes after another are found as many places further on as there are
words before. -/
theorem lexemes_append_blank (p : Profile) (cs ds : List Char) :
    p.lexemes (cs ++ ' ' :: ds) =
      p.lexemes cs ++ (p.lexemes ds).map (Prod.map id (· + (words cs).length)) := by
  have hblank : Text.isAlphanumeric ' ' = false := by decide
  rw [lexemes, words_append_cons cs ds hblank, List.zipIdx_append, List.filterMap_append,
    Nat.add_comm 1, ← List.map_snd_add_zipIdx_eq_zipIdx, List.filterMap_map]
  refine congrArg (p.lexemes cs ++ ·) ?_
  rw [lexemes, List.map_filterMap]
  refine congrArg (List.filterMap · _) (funext fun t => ?_)
  simp [Function.comp_def]

/-- In a text behind another, lexemes occur at the same places as by themselves, moved by the words
of the first text. -/
theorem occurrences_append_blank (p : Profile) (cs ds : List Char) :
    p.occurrences (cs ++ ' ' :: ds) =
      p.occurrences cs ++ (p.occurrences ds).map (Prod.map id (· + (words cs).length)) := by
  rw [occurrences, lexemes_append_blank, List.filter_append, List.filter_map]
  rfl

/-- The places of a lexeme in joined texts are those in the first, and those in the second moved
behind it. -/
theorem placesOf_append_blank (p : Profile) (cs ds : List Char) (x : String) :
    p.placesOf (cs ++ ' ' :: ds) x =
      p.placesOf cs x ++ (p.placesOf ds x).map (· + (words cs).length) := by
  rw [placesOf, occurrences_append_blank, List.filter_append, List.map_append, List.filter_map,
    List.map_map, placesOf, placesOf, List.map_map]
  rfl

/-- **Texts and their vectors.** If the greatest place in the vector of a text is that of its last word,
or the end of the range where there are more words than places, then the vector of the text with
another one after a blank is the concatenation of the two vectors. -/
theorem toVector_append_blank (p : Profile) (cs ds : List Char)
    (hmax : (p.toVector cs).maxPosition = min (words cs).length maxPlace) :
    p.toVector (cs ++ ' ' :: ds) = (p.toVector cs).concat (p.toVector ds) := by
  have hcs : (p.toVector cs).WellFormed := p.wellFormed_toVector cs
  have hds : (p.toVector ds).WellFormed := p.wellFormed_toVector ds
  refine (p.wellFormed_toVector _).ext_positionsOf (hcs.concat hds) (fun x => ?_) fun x => ?_
  · rw [SearchVector.mem_lexemes_concat hcs.ascending hds.ascending, mem_lexemes_toVector,
      mem_lexemes_toVector, mem_lexemes_toVector, stream_append_blank, List.mem_append]
  · have hwhole := pairwise_placesOf p (cs ++ ' ' :: ds) x
    have hpos := pos_of_mem_placesOf p (cs ++ ' ' :: ds) x
    rw [placesOf_append_blank] at hwhole hpos
    -- the places in each text are settled first, and those in the second moved on
    rw [SearchVector.positionsOf_concat hcs hds, positionsOf_toVector, positionsOf_toVector,
      positionsOf_toVector, hmax, placesOf_append_blank,
      settle_map_shift_settle (pos_of_mem_placesOf p ds x) (pairwise_placesOf p ds x),
      settle_settle_append hpos hwhole]

/-- As many words as there are places. -/
def everyPlace : List Char :=
  [' '].intercalate (List.replicate maxPlace ['a'])

theorem length_words_everyPlace : (words everyPlace).length = maxPlace := by
  have hone : words ['a'] = [['a']] := by decide
  rw [everyPlace, words_intercalate, List.length_flatMap, List.map_replicate, hone]
  simp

/-- A text with one word more than there are places. -/
def longText : List Char :=
  everyPlace ++ ' ' :: ['b']

theorem length_words_longText : (words longText).length = maxPlace + 1 := by
  have hblank : Text.isAlphanumeric ' ' = false := by decide
  have hlast : (words ['b']).length = 1 := by decide
  rw [longText, words_append_cons _ _ hblank, List.length_append, length_words_everyPlace, hlast]

theorem placesOf_longText :
    Configuration.simple.profile.placesOf longText "b" = [maxPlace + 1] := by
  have hfront : "b" ∉ Configuration.simple.profile.stream everyPlace := by
    rw [everyPlace, stream_intercalate, List.mem_flatMap]
    rintro ⟨t, ht, hb⟩
    rw [List.eq_of_mem_replicate ht] at hb
    exact absurd hb (by decide)
  have hlast : Configuration.simple.profile.placesOf ['b'] "b" = [1] := by decide
  rw [longText, placesOf_append_blank, placesOf_eq_nil_iff.mpr hfront, hlast,
    length_words_everyPlace, Nat.add_comm]
  rfl

/-- The last word of the long text is moved to the end of the range. So are all words that follow, among
them the same one again, which leaves it with one position. -/
theorem toVector_append_blank_long :
    (Configuration.simple.profile.toVector longText).maxPosition =
      min (words longText).length maxPlace ∧
    Configuration.simple.profile.toVector (longText ++ ' ' :: ['b']) =
      (Configuration.simple.profile.toVector longText).concat
        (Configuration.simple.profile.toVector ['b']) ∧
    ((Configuration.simple.profile.toVector longText).concat
      (Configuration.simple.profile.toVector ['b'])).positionsOf "b" = [⟨maxPlace, .d⟩] := by
  have hwf := Configuration.simple.profile.wellFormed_toVector longText
  have hlast : Configuration.simple.profile.placesOf ['b'] "b" = [1] := by decide
  have hone : (Configuration.simple.profile.toVector longText).positionsOf "b" =
      [⟨maxPlace, .d⟩] := by
    rw [positionsOf_toVector_clamped, placesOf_longText]
    rfl
  have hmax : (Configuration.simple.profile.toVector longText).maxPosition =
      min (words longText).length maxPlace := by
    rw [length_words_longText, Nat.min_eq_right (Nat.le_succ maxPlace)]
    have hmem : (⟨maxPlace, .d⟩ : Position) ∈
        (Configuration.simple.profile.toVector longText).positionsOf "b" := by
      rw [hone]
      exact List.mem_cons_self
    exact Nat.le_antisymm hwf.maxPosition_le (hwf.place_le_of_mem hmem)
  have hjoined := toVector_append_blank Configuration.simple.profile longText ['b'] hmax
  refine ⟨hmax, hjoined, ?_⟩
  have hplaces : Configuration.simple.profile.placesOf (longText ++ ' ' :: ['b']) "b" =
      [maxPlace + 1, maxPlace + 2] := by
    rw [placesOf_append_blank, placesOf_longText, hlast, length_words_longText]
    rfl
  rw [← hjoined, positionsOf_toVector_clamped, hplaces]
  rfl

end EventIntake.Profile
