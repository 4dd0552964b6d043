import EventIntake.Analysis.Profile
import EventIntake.Proofs.SearchVector.Clamped
import EventIntake.Proofs.SearchVector.WellFormed

/-!
# The lexemes of a text

The `stream` of a text is its lexemes as they occur, without those that no vector takes. The words of
texts that are joined by blanks are the words of each (`words_intercalate`), so the streams of joined
texts are joined too (`stream_intercalate`). The vector of a text has the lexemes of its stream
(`mem_lexemes_toVector`). Each of them has the places at which it occurs, moved into the range and
settled (`positionsOf_toVector`), and in a text that is not too long just these, as long as they are
not too many (`positionsOf_toVector_of_few`).
-/

namespace EventIntake

/-! ## Words of joined texts -/

namespace Analysis

/-- The words that were read before stay as they are. So a text can be read on from any place where
a word has ended as if it began there. -/
theorem endWord_foldl (cs : List Char) (ws : List (List Char)) (ls : List Char) :
    (cs.foldl Reading.next ⟨ws, ls⟩).endWord =
      (cs.foldl Reading.next ⟨[], ls⟩).endWord ++ ws := by
  induction cs generalizing ws ls with
  | nil =>
    rw [List.foldl_nil, List.foldl_nil, Reading.endWord, Reading.endWord]
    split <;> rfl
  | cons c cs ih =>
    rw [List.foldl_cons, List.foldl_cons, Reading.next, Reading.next]
    by_cases hc : Text.isAlphanumeric c = true
    · rw [if_pos hc, if_pos hc]
      exact ih ws (c :: ls)
    · rw [if_neg hc, if_neg hc, ih, ih (Reading.endWord ⟨[], ls⟩), List.append_assoc]
      refine congrArg _ ?_
      rw [Reading.endWord, Reading.endWord]
      split <;> rfl

/-- A character that is no letter and no digit ends a word. -/
theorem words_append_cons (cs ds : List Char) {c : Char} (hc : Text.isAlphanumeric c = false) :
    words (cs ++ c :: ds) = words cs ++ words ds := by
  have hnext (r : Reading) : r.next c = ⟨r.endWord, []⟩ := by
    rw [Reading.next, hc]
    rfl
  rw [words, words, words, List.foldl_append, List.foldl_cons, hnext, endWord_foldl,
    List.reverse_append]

/-- The words of texts that are joined with blanks are those of each text, one text
after the other. -/
theorem words_intercalate (texts : List (List Char)) :
    words ([' '].intercalate texts) = texts.flatMap words := by
  induction texts with
  | nil => rfl
  | cons t texts ih =>
    cases texts with
    | nil => rw [List.intercalate_singleton, List.flatMap_singleton]
    | cons u texts =>
      have hblank : Text.isAlphanumeric ' ' = false := by decide
      rw [List.intercalate_cons_cons, List.append_assoc, List.singleton_append,
        words_append_cons _ _ hblank, ih]
      exact List.flatMap_cons.symm

end Analysis

/-- Whether a word is taken into a vector: it is neither empty nor too long. -/
def isLexeme (x : String) : Bool :=
  !(x.isEmpty || maxLexemeBytes < x.utf8ByteSize)

namespace Profile

open Analysis

variable {p : Profile} {cs : List Char} {x : String}

/-! ## The stream -/

/-- The lexemes of a text that a vector takes, with their places. -/
def occurrences (p : Profile) (cs : List Char) : List (String × Nat) :=
  (p.lexemes cs).filter fun t => isLexeme t.1

/-- The lexemes of a text that a vector takes, in the order in which they occur. -/
def stream (p : Profile) (cs : List Char) : List String :=
  (p.occurrences cs).map Prod.fst

/-- The stream has the words of a text, without the ones that have no lexeme or one that may not be
kept. -/
theorem stream_eq (p : Profile) (cs : List Char) :
    p.stream cs = ((words cs).filterMap p.lexeme?).filter isLexeme := by
  have hfst : (p.lexemes cs).map Prod.fst = (words cs).filterMap p.lexeme? := by
    rw [lexemes, List.map_filterMap]
    conv => rhs; rw [← List.zipIdx_map_fst 1 (words cs), List.filterMap_map]
    refine congrArg (List.filterMap · _) (funext fun t => ?_)
    simp [Function.comp_def]
  rw [← hfst, List.filter_map]
  rfl

theorem length_stream_le (p : Profile) (cs : List Char) :
    (p.stream cs).length ≤ (words cs).length := by
  rw [stream_eq]
  exact Nat.le_trans (List.length_filter_le _ _) (List.length_filterMap_le _ _)

/-- The streams of joined texts follow one another. -/
theorem stream_intercalate (p : Profile) (texts : List (List Char)) :
    p.stream ([' '].intercalate texts) = texts.flatMap p.stream := by
  have heach : p.stream = fun cs => ((words cs).filterMap p.lexeme?).filter isLexeme :=
    funext p.stream_eq
  simp only [heach, words_intercalate, List.filterMap_flatMap, List.filter_flatMap]

/-- The stream of a text goes on after a blank. -/
theorem stream_append_blank (p : Profile) (cs ds : List Char) :
    p.stream (cs ++ ' ' :: ds) = p.stream cs ++ p.stream ds := by
  have htwo := p.stream_intercalate [cs, ds]
  rwa [List.intercalate_cons_cons, List.intercalate_singleton, List.append_assoc,
    List.singleton_append, List.flatMap_cons, List.flatMap_singleton] at htwo

/-- The places of the lexemes strictly increase. -/
theorem pairwise_occurrences (p : Profile) (cs : List Char) :
    (p.occurrences cs).Pairwise fun t u => t.2 < u.2 := by
  refine List.Pairwise.filter _ (List.Pairwise.filterMap _ ?_ ?_ (R := fun t u => t.2 < u.2))
  · rintro ⟨w, m⟩ ⟨w', n⟩ hlt t ht u hu
    obtain ⟨x, -, rfl⟩ := Option.map_eq_some_iff.mp ht
    obtain ⟨y, -, rfl⟩ := Option.map_eq_some_iff.mp hu
    exact hlt
  · have hplaces := List.pairwise_lt_range' (s := 1) (n := (words cs).length)
    rw [← List.zipIdx_map_snd 1 (words cs)] at hplaces
    exact List.pairwise_map.mp hplaces

/-- A place counts the words up to it. -/
theorem place_of_mem_occurrences {t : String × Nat} (ht : t ∈ p.occurrences cs) :
    1 ≤ t.2 ∧ t.2 ≤ (words cs).length := by
  obtain ⟨⟨w, n⟩, hw, hsome⟩ := List.mem_filterMap.mp (List.mem_filter.mp ht).1
  obtain ⟨x, -, rfl⟩ := Option.map_eq_some_iff.mp hsome
  have hrange := List.mem_map_of_mem (f := Prod.snd) hw
  rw [List.zipIdx_map_snd, List.mem_range'_1] at hrange
  simp only at hrange ⊢
  omega

/-! ## The vector of a text -/

/-- The vector of a text is made of its occurrences, each with a position of its own. -/
theorem toVector_eq (p : Profile) (cs : List Char) :
    p.toVector cs =
      .ofEntries ((p.occurrences cs).map fun t => ⟨t.1, [.ofPlace t.2 .d]⟩) := by
  rw [toVector, SearchVector.ofTokens, occurrences, ← List.filterMap_eq_map, List.filterMap_filter]
  refine congrArg (fun f => SearchVector.ofEntries (List.filterMap f _)) (funext fun t => ?_)
  by_cases h : t.1.isEmpty || maxLexemeBytes < t.1.utf8ByteSize <;> simp [isLexeme, h]

/-- Occurrences that are in byte order already, no lexeme twice, are the vector of the text. -/
theorem toVector_of_occurrences {v : SearchVector} (hv : v.WellFormed)
    (h : (p.occurrences cs).map (fun t => ⟨t.1, [.ofPlace t.2 .d]⟩) = v.entries) :
    p.toVector cs = v := by
  rw [toVector_eq, h]
  exact SearchVector.ofEntries_entries hv

theorem wellFormed_toVector (p : Profile) (cs : List Char) : (p.toVector cs).WellFormed :=
  SearchVector.wellFormed_ofTokens _

/-- The vector of a text has the lexemes of its stream. -/
theorem mem_lexemes_toVector : x ∈ (p.toVector cs).lexemes ↔ x ∈ p.stream cs := by
  rw [toVector_eq, SearchVector.mem_lexemes_ofEntries, List.map_map]
  rfl

/-- The places at which a lexeme occurs. -/
def placesOf (p : Profile) (cs : List Char) (x : String) : List Nat :=
  ((p.occurrences cs).filter (·.1 = x)).map Prod.snd

/-- A lexeme has as many places as it comes in the stream. -/
theorem length_placesOf (p : Profile) (cs : List Char) (x : String) :
    (p.placesOf cs x).length = (p.stream cs).count x := by
  rw [placesOf, List.length_map, stream, List.count, List.countP_map, List.countP_eq_length_filter]
  refine congrArg List.length (List.filter_congr fun t _ => ?_)
  exact (Bool.beq_eq_decide_eq t.1 x).symm

theorem pairwise_placesOf (p : Profile) (cs : List Char) (x : String) :
    (p.placesOf cs x).Pairwise (· < ·) :=
  List.pairwise_map.mpr ((pairwise_occurrences p cs).filter _)

theorem placesOf_eq_nil_iff : p.placesOf cs x = [] ↔ x ∉ p.stream cs := by
  rw [← List.length_eq_zero_iff, length_placesOf, List.count_eq_zero]

theorem range_of_mem_placesOf {n : Nat} (hn : n ∈ p.placesOf cs x) :
    1 ≤ n ∧ n ≤ (words cs).length := by
  obtain ⟨t, ht, rfl⟩ := List.mem_map.mp hn
  exact place_of_mem_occurrences (List.mem_filter.mp ht).1

/-- The place at which a lexeme occurs last, 0 if it does not occur. -/
def lastPlaceOf (p : Profile) (cs : List Char) (x : String) : Nat :=
  (p.placesOf cs x).getLast?.getD 0

theorem lastPlaceOf_mem (hx : x ∈ p.stream cs) : p.lastPlaceOf cs x ∈ p.placesOf cs x := by
  have hne : p.placesOf cs x ≠ [] := fun hnil => placesOf_eq_nil_iff.mp hnil hx
  rw [lastPlaceOf, List.getLast?_eq_some_getLast hne, Option.getD_some]
  exact List.getLast_mem hne

theorem le_lastPlaceOf {n : Nat} (hn : n ∈ p.placesOf cs x) : n ≤ p.lastPlaceOf cs x := by
  have hinc := pairwise_placesOf p cs x
  rw [lastPlaceOf]
  rcases List.eq_nil_or_concat (p.placesOf cs x) with hnil | ⟨front, last, heq⟩
  · rw [hnil] at hn
    cases hn
  · rw [List.concat_eq_append] at heq
    rw [heq] at hn hinc ⊢
    rw [List.getLast?_concat, Option.getD_some]
    rcases List.mem_append.mp hn with hn | hn
    · exact Nat.le_of_lt ((List.pairwise_append.mp hinc).2.2 n hn last (List.mem_singleton.mpr rfl))
    · exact Nat.le_of_eq (List.mem_singleton.mp hn)

theorem pos_of_mem_placesOf (p : Profile) (cs : List Char) (x : String) :
    ∀ n ∈ p.placesOf cs x, 1 ≤ n :=
  fun _ hn => (range_of_mem_placesOf hn).1

/-- A lexeme has the places at which it occurs, moved into the range and settled. -/
theorem positionsOf_toVector (p : Profile) (cs : List Char) (x : String) :
    (p.toVector cs).positionsOf x = settle (placed (p.placesOf cs x)) := by
  have hplaces : (((p.occurrences cs).map fun t : String × Nat =>
      (⟨t.1, [.ofPlace t.2 .d]⟩ : Entry)).filter (·.lexeme = x)).flatMap Entry.positions =
        placed (p.placesOf cs x) := by
    rw [List.filter_map, List.flatMap_map, placed, placesOf, List.map_map, List.map_eq_flatMap]
    rfl
  rw [toVector_eq, SearchVector.positionsOf_ofEntries, hplaces]

/-- For places beyond the range it has the end of the range, and as many as there may be. -/
theorem positionsOf_toVector_clamped (p : Profile) (cs : List Char) (x : String) :
    (p.toVector cs).positionsOf x = placed ((clamped (p.placesOf cs x)).take maxPositions) := by
  rw [positionsOf_toVector, settle_placed (pos_of_mem_placesOf p cs x)
    ((pairwise_placesOf p cs x).imp Or.inl)]

/-- In a text that is not too long, a lexeme that does not occur too often has the places at which it
occurs. -/
theorem positionsOf_toVector_of_few (hlen : (words cs).length ≤ maxPlace)
    (hfew : (p.stream cs).count x ≤ maxPositions) :
    (p.toVector cs).positionsOf x = (p.placesOf cs x).map fun n => ⟨n, .d⟩ := by
  have hplaces : placed (p.placesOf cs x) = (p.placesOf cs x).map fun n => ⟨n, .d⟩ := by
    refine List.map_congr_left fun n hn => ?_
    obtain ⟨h1, h2⟩ := range_of_mem_placesOf hn
    exact Position.ofPlace_eq h1 (Nat.le_trans h2 hlen)
  rw [positionsOf_toVector, hplaces, settle_eq_self]
  · exact (pairwise_placesOf p cs x).map _ fun _ _ h => h
  · rw [List.length_map, length_placesOf]
    exact hfew

end Profile

end EventIntake
