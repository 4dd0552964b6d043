import EventIntake.Proofs.Maintenance.Accounting

/-!
# Longer texts

A text that goes on after a blank has the lexemes that it had before, also where the reading of the
longer text ends inside a word or a character (`mem_incoming_of_mem`): if the reading ends within the
first text, the rest makes no difference, and otherwise the words of the first text are read as they
are. So an append of the longer text keeps at least as many lexemes (`size_le_of_longer_text`).
-/

namespace EventIntake.SearchVector

variable {existing : SearchVector} {text more : List Char} {n : Nat} {p : Profile}
  {limits : IndexLimits} {x : String}

/-- What is read of a longer text has the lexemes of what is read of its beginning. -/
theorem mem_incoming_of_mem (more : List Char) (hx : x ∈ (incoming text p limits).lexemes) :
    x ∈ (incoming (text ++ ' ' :: more) p limits).lexemes := by
  rw [incoming, Text.Utf8.takeBytes_append]
  by_cases hwhole : Text.Utf8.size text ≤ limits.maxInputBytes
  · rw [incoming_of_size_le hwhole] at hx
    rw [if_pos hwhole, Text.Utf8.takeBytes_cons]
    split
    · rw [Profile.mem_lexemes_toVector, Profile.stream_append_blank]
      exact List.mem_append_left _ (Profile.mem_lexemes_toVector.mp hx)
    · -- not even the blank is read
      rwa [List.append_nil]
  · rw [if_neg hwhole]
    exact hx

/-- With more text there are no fewer lexemes. If the text is cut already, the same is read of both;
otherwise what is read of the longer one begins with all of the shorter one. -/
theorem length_lexemesTogether_le (existing : SearchVector) (text more : List Char) (p : Profile)
    (limits : IndexLimits) :
    (existing.lexemesTogether text p limits).length ≤
      (existing.lexemesTogether (text ++ ' ' :: more) p limits).length := by
  refine (nodup_lexemesTogether existing text p limits).length_le_of_subset fun x hx => ?_
  rw [mem_lexemesTogether] at hx ⊢
  exact hx.imp_right (mem_incoming_of_mem more)

/-- **A longer text never leaves fewer lexemes.** If neither a text nor the text with more after a
blank is refused, the append of the longer one leaves at least as many lexemes, and no fewer than may
be kept if the shorter one leaves so many. -/
theorem size_le_of_longer_text (existing : SearchVector) (text more : List Char) (n : Nat)
    (p : Profile) (limits : IndexLimits) (hv : existing.WellFormed)
    (hsat : (existing.append text n p limits).outcome ≠ .saturated)
    (hover : (existing.append text n p limits).outcome ≠ .oversized)
    (hsat' : (existing.append (text ++ ' ' :: more) n p limits).outcome ≠ .saturated)
    (hover' : (existing.append (text ++ ' ' :: more) n p limits).outcome ≠ .oversized) :
    let short := existing.append text n p limits
    let long := existing.append (text ++ ' ' :: more) n p limits
    short.vector.size ≤ long.vector.size ∧ (short.vector.size = n → long.vector.size = n) := by
  intro short long
  have hshort : short.vector.size = min n (existing.lexemesTogether text p limits).length :=
    (appending existing text n p limits).size_eq hv hsat hover
  have hlong : long.vector.size =
      min n (existing.lexemesTogether (text ++ ' ' :: more) p limits).length :=
    (appending existing (text ++ ' ' :: more) n p limits).size_eq hv hsat' hover'
  have hgrow := length_lexemesTogether_le existing text more p limits
  omega

/-- No more than four bytes of a text are read. -/
def fourBytes : IndexLimits := { IndexLimits.standard with maxInputBytes := 4 }

/-- An append to the two lexemes when three are to be kept. -/
abbrev appendCut (text : String) : AppendResult :=
  twoLexemes.append text.toList 3 Configuration.simple.profile fourBytes

theorem combined_short :
    twoLexemes.combined "d".toList Configuration.simple.profile fourBytes =
      ⟨twoLexemes.entries ++ [⟨"d", [⟨1, .d⟩]⟩]⟩ := by
  have hincoming : incoming "d".toList Configuration.simple.profile fourBytes =
      ⟨[⟨"d", [⟨1, .d⟩]⟩]⟩ :=
    Profile.toVector_of_occurrences (by decide) (by decide)
  rw [combined, hincoming]
  simp [follow, concat, gather, settle, firstAtEachPlace, twoLexemes, fourBytes,
    IndexLimits.standard, Entry.before, Entry.latestPlace, Entry.latest?, Position.shift,
    Position.ofPlace, maxPosition, maxPlace, maxPositions]

/-- Of the second word in the longer text only the first letter is read. -/
theorem combined_long :
    twoLexemes.combined "d eé".toList Configuration.simple.profile fourBytes =
      ⟨twoLexemes.entries ++ [⟨"d", [⟨1, .d⟩]⟩, ⟨"e", [⟨2, .d⟩]⟩]⟩ := by
  have hincoming : incoming "d eé".toList Configuration.simple.profile fourBytes =
      ⟨[⟨"d", [⟨1, .d⟩]⟩, ⟨"e", [⟨2, .d⟩]⟩]⟩ :=
    Profile.toVector_of_occurrences (by decide) (by decide)
  rw [combined, hincoming]
  simp [follow, concat, gather, settle, firstAtEachPlace, twoLexemes, fourBytes,
    IndexLimits.standard, Entry.before, Entry.latestPlace, Entry.latest?, Position.shift,
    Position.ofPlace, maxPosition, maxPlace, maxPositions]

/-- With the shorter text there is room for all lexemes. -/
theorem appendCut_short : (appendCut "d").outcome = .appended := by
  rw [appendCut, append_eq, evicted, kept, combined_short]
  decide

/-- With the longer one there is one lexeme too many. -/
theorem appendCut_long : (appendCut "d eé").outcome = .truncated 1 := by
  rw [appendCut, append_eq, evicted, kept, combined_long]
  decide

/-- The longer text is cut inside the last character of a word. As many lexemes are there as may be,
with the shorter text and so with the longer one. -/
theorem size_le_of_longer_text_cut :
    Text.Utf8.takeBytes fourBytes.maxInputBytes "d eé".toList = "d e".toList ∧
    (appendCut "d").outcome = .appended ∧ (appendCut "d eé").outcome = .truncated 1 ∧
    (appendCut "d").vector.size = 3 ∧ (appendCut "d eé").vector.size = 3 := by
  have hcut : Text.Utf8.takeBytes fourBytes.maxInputBytes "d eé".toList = "d e".toList := by
    decide
  have hshort : (appendCut "d").vector.size = 3 := by
    rw [appendCut, append_eq, evicted, kept, combined_short]
    decide
  have hlong : (twoLexemes.append ("d".toList ++ ' ' :: "eé".toList) 3
      Configuration.simple.profile fourBytes).outcome = .truncated 1 := appendCut_long
  obtain ⟨-, hfull⟩ := size_le_of_longer_text twoLexemes "d".toList "eé".toList 3
    Configuration.simple.profile fourBytes wellFormed_twoLexemes
    (by rw [appendCut_short]; decide) (by rw [appendCut_short]; decide)
    (by rw [hlong]; decide) (by rw [hlong]; decide)
  exact ⟨hcut, appendCut_short, appendCut_long, hshort, hfull hshort⟩

end EventIntake.SearchVector
