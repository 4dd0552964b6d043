import EventIntake.Proofs.SearchVector.WellFormed

/-!
# The bytes that a vector takes

A well-formed vector takes no more than its header and a fixed number of bytes for each lexeme
(`WellFormed.byteSize_le`), so a limit on its lexemes is a limit on its bytes.
-/

namespace EventIntake

/-- The most bytes that a lexeme takes with its positions. -/
def maxEntryBytes : Nat :=
  4 + (maxLexemeBytes + (1 + 2 * (maxPositions + 1)))

namespace SearchVector

theorem le_byteSize (v : SearchVector) : 8 ≤ v.byteSize := by
  rw [byteSize]
  omega

theorem byteSize_empty : empty.byteSize = 8 := rfl

/-- An entry takes no more than its share: four bytes for itself, and its data with padding. -/
theorem dataAfter_le {e : Entry} (he : e.WellFormed) (data : Nat) :
    4 + dataAfter data e ≤ data + maxEntryBytes := by
  have hlexeme := he.lexeme_ok.2
  have hfew := he.few
  simp only [dataAfter, maxEntryBytes]
  split <;> omega

/-- The bytes of the entries are counted one after the other from what is there already; by
induction, each adds no more than its share. -/
theorem foldl_dataAfter_le {es : List Entry} (hes : ∀ e ∈ es, e.WellFormed) (data : Nat) :
    4 * es.length + es.foldl dataAfter data ≤ data + maxEntryBytes * es.length := by
  induction es generalizing data with
  | nil => simp
  | cons e es ih =>
    obtain ⟨he, hes⟩ := List.forall_mem_cons.mp hes
    have hfirst := dataAfter_le he data
    have hrest := ih hes (dataAfter data e)
    rw [List.foldl_cons, List.length_cons, Nat.mul_succ maxEntryBytes]
    omega

/-- A vector takes no more than a fixed number of bytes for each lexeme. -/
theorem WellFormed.byteSize_le {v : SearchVector} (hv : v.WellFormed) :
    v.byteSize ≤ 8 + maxEntryBytes * v.size := by
  have hdata := foldl_dataAfter_le (fun e he => hv.entry he) 0
  rw [byteSize, size]
  omega

/-- Where there is room for `n` lexemes, a vector that has no more fits. -/
theorem WellFormed.byteSize_le_of_room {v : SearchVector} (hv : v.WellFormed) {n bytes : Nat}
    (hsize : v.size ≤ n) (hroom : 8 + maxEntryBytes * n ≤ bytes) : v.byteSize ≤ bytes := by
  have hbytes := hv.byteSize_le
  have hentries : maxEntryBytes * v.size ≤ maxEntryBytes * n := Nat.mul_le_mul_left _ hsize
  omega

end SearchVector

end EventIntake
