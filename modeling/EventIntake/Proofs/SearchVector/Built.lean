import EventIntake.Proofs.SearchVector.Compact
import EventIntake.Proofs.SearchVector.LeavingOut
import EventIntake.Proofs.SearchVector.RoundTrip
import EventIntake.Proofs.Text.ByteOrder

/-!
# Everything that can be built

A vector is made of tokens or read from a text, and the operations make vectors of vectors. There is
no other way to come by one, so each is well-formed (`wellFormed_of_built`): no token, no text and no
sequence of operations brings a lexeme or a position into a vector that could not be stored.
-/

namespace EventIntake.SearchVector

open EventIntake.Text (Utf8.encode Utf8.lt_iff_encode_lt)

/-- The vectors that some tokens or a text and any operations lead to. -/
inductive Built : SearchVector → Prop
  /-- the vector of some tokens -/
  | tokens (ts : List (String × Nat)) : Built (ofTokens ts)
  /-- what a text says -/
  | read {s : String} {v : SearchVector} (h : parse s = .ok v) : Built v
  /-- one after the other -/
  | concat {v w : SearchVector} (hv : Built v) (hw : Built w) : Built (v.concat w)
  /-- the places counted anew -/
  | compact {v : SearchVector} (hv : Built v) : Built v.compact
  /-- without positions -/
  | strip {v : SearchVector} (hv : Built v) : Built v.strip
  /-- without some lexemes -/
  | delete {v : SearchVector} (hv : Built v) (lexemes : List String) : Built (v.delete lexemes)
  /-- the first lexemes -/
  | takeFirst {v : SearchVector} (hv : Built v) (n : Nat) : Built (v.takeFirst n)
  /-- the lexemes that occurred last -/
  | takeFreshest {v : SearchVector} (hv : Built v) (n : Nat) : Built (v.takeFreshest n)

/-- **What every vector has in common.** However a vector was built, its lexemes are neither empty nor
too long, and their bytes are in strictly increasing order; the places of each lexeme are in range and
strictly increasing, and they are not too many. -/
theorem wellFormed_of_built {v : SearchVector} (h : Built v) :
    v.WellFormed ∧
      v.lexemes.Pairwise fun x y => Utf8.encode x.toList < Utf8.encode y.toList := by
  have hv : v.WellFormed := by
    induction h with
    | tokens ts => exact wellFormed_ofTokens ts
    | read h => exact wellFormed_of_parse h
    | concat _ _ hv hw => exact hv.concat hw
    | compact _ hv => exact hv.compact
    | strip _ hv => exact hv.strip
    | delete _ lexemes hv => exact hv.delete lexemes
    | takeFirst _ n hv => exact hv.takeFirst n
    | takeFreshest _ n hv => exact hv.takeFreshest n
  exact ⟨hv, (lexemes_strictly_sorted hv.ascending).imp Utf8.lt_iff_encode_lt.mp⟩

/-- Words at places on both sides of the range, and a word that is none. -/
def wayward : List (String × Nat) :=
  [("b", 0), ("b", 70000), ("", 3), ("a", 2), ("b", 16383)]

/-- A vector made of the words and of a loosely written one, all of whose places meet at the end of the
range. -/
def patchwork : SearchVector :=
  (((ofTokens wayward).concat tidy).delete ["b"]).concat ((ofTokens wayward).strip.takeFirst 1)

/-- The places of the words are moved into the range, and the empty word is left out. -/
theorem ofTokens_wayward :
    ofTokens wayward = ⟨[⟨"a", [⟨2, .d⟩]⟩, ⟨"b", [⟨1, .d⟩, ⟨16383, .d⟩]⟩]⟩ := by
  have hread : ofTokens wayward =
      ofEntries [⟨"b", [⟨1, .d⟩]⟩, ⟨"b", [⟨16383, .d⟩]⟩, ⟨"a", [⟨2, .d⟩]⟩, ⟨"b", [⟨16383, .d⟩]⟩] :=
    congrArg ofEntries (by decide)
  rw [hread]
  simp [ofEntries, gather, settle, firstAtEachPlace, List.mergeSort, Entry.before, Position.before,
    Weight.rank, maxPositions]

/-- What became of the wayward words and the loose text is well-formed, and stays so in compaction.
Most of its operations are among those by which it was built. -/
theorem wellFormed_of_built_patchwork :
    patchwork = ⟨[⟨"a", [⟨2, .d⟩]⟩, ⟨"bare", [⟨16383, .a⟩]⟩, ⟨"it\x27s", []⟩]⟩ ∧
    (patchwork.WellFormed ∧
      patchwork.lexemes.Pairwise fun x y => Utf8.encode x.toList < Utf8.encode y.toList) ∧
    patchwork.compact.WellFormed := by
  have hwords : Built (ofTokens wayward) := .tokens wayward
  have hloose : Built tidy := .read parse_loose
  have hbuilt : Built patchwork :=
    .concat (.delete (.concat hwords hloose) ["b"]) (.takeFirst (.strip hwords) 1)
  have hvalue : patchwork = ⟨[⟨"a", [⟨2, .d⟩]⟩, ⟨"bare", [⟨16383, .a⟩]⟩, ⟨"it\x27s", []⟩]⟩ := by
    rw [patchwork, ofTokens_wayward]
    simp [concat, gather, settle, firstAtEachPlace, tidy, strip, delete, takeFirst, List.mergeSort,
      Entry.before, Entry.latestPlace, Entry.latest?, Position.before, Position.shift,
      Position.ofPlace, Weight.rank, maxPosition, maxPlace, maxPositions]
  exact ⟨hvalue, wellFormed_of_built hbuilt, (wellFormed_of_built (.compact hbuilt)).1⟩

end EventIntake.SearchVector
