import EventIntake.Proofs.Lists
import EventIntake.Proofs.Maintenance.Append

/-!
# The first lexemes in byte order

With lexical truncation an append keeps the first lexemes in byte order of what was there and what
comes (`Appending.lexemes_lexical`). It does not matter how often lexemes are left out on the way: the
first of the first and some others are the first of all (`firstLexemes_append`), since a lexeme that
was left out had enough others before it already.
-/

namespace EventIntake

/-- Some lexemes in byte order, each of them once. -/
def inByteOrder (xs : List String) : List String :=
  xs.eraseDups.mergeSort (· ≤ ·)

/-- The first `n` of some lexemes in byte order. -/
def firstLexemes (n : Nat) (xs : List String) : List String :=
  (inByteOrder xs).take n

variable {xs ys : List String} {x : String} {n : Nat}

/-! ## Byte order -/

theorem mem_inByteOrder : x ∈ inByteOrder xs ↔ x ∈ xs := by
  rw [inByteOrder, List.mem_mergeSort, List.mem_eraseDups]

theorem pairwise_inByteOrder (xs : List String) : (inByteOrder xs).Pairwise (· < ·) := by
  have hle : (inByteOrder xs).Pairwise fun x y => decide (x ≤ y) = true := by
    refine List.pairwise_mergeSort (fun x y z hxy hyz => ?_) (fun x y => ?_) _
    · rw [decide_eq_true_eq] at *
      exact String.le_trans hxy hyz
    · rw [Bool.or_eq_true, decide_eq_true_eq, decide_eq_true_eq]
      exact String.le_total x y
  have hne : (inByteOrder xs).Nodup :=
    (List.mergeSort_perm _ _).nodup_iff.mpr (nodup_eraseDups xs)
  refine (hle.and hne).imp fun ⟨hle, hne⟩ => ?_
  exact String.not_le.mp fun hge => hne (String.le_antisymm (of_decide_eq_true hle) hge)

/-- Byte order depends on which lexemes there are, not on the order or the number of times in which
they come. -/
theorem inByteOrder_congr (h : ∀ x, x ∈ xs ↔ x ∈ ys) : inByteOrder xs = inByteOrder ys := by
  refine (pairwise_inByteOrder xs).eq_of_mem_iff (pairwise_inByteOrder ys) fun x => ?_
  rw [mem_inByteOrder, mem_inByteOrder, h]

theorem inByteOrder_eq_self (hx : xs.Pairwise (· < ·)) : inByteOrder xs = xs :=
  (pairwise_inByteOrder xs).eq_of_mem_iff hx fun _ => mem_inByteOrder

/-- Some of the lexemes in byte order are all of them in byte order, the others left out. -/
theorem inByteOrder_eq_filter {p : String → Bool} (h : ∀ x, x ∈ ys ↔ x ∈ xs ∧ p x = true) :
    inByteOrder ys = (inByteOrder xs).filter p := by
  refine (pairwise_inByteOrder ys).eq_of_mem_iff ((pairwise_inByteOrder xs).filter p) fun x => ?_
  rw [mem_inByteOrder, List.mem_filter, mem_inByteOrder, h]

/-! ## Leaving out again and again -/

/-- The first lexemes in byte order depend only on which lexemes there are. -/
theorem firstLexemes_congr (h : ∀ x, x ∈ xs ↔ x ∈ ys) : firstLexemes n xs = firstLexemes n ys :=
  congrArg (List.take n) (inByteOrder_congr h)

/-- The first of the first and some others are the first of all. So lexemes that were left out
before cannot be missed later, and appends may come in any groups. -/
theorem firstLexemes_append (n : Nat) (xs ys : List String) :
    firstLexemes n (firstLexemes n xs ++ ys) = firstLexemes n (xs ++ ys) := by
  have hsub {x : String} (hx : x ∈ firstLexemes n xs) : x ∈ xs :=
    mem_inByteOrder.mp (List.mem_of_mem_take hx)
  -- a lexeme is still there if it is among the first, or among the others
  have hleft : inByteOrder (firstLexemes n xs ++ ys) =
      (inByteOrder (xs ++ ys)).filter fun x => (firstLexemes n xs ++ ys).contains x := by
    refine inByteOrder_eq_filter fun x => ?_
    rw [List.contains_iff_mem, List.mem_append, List.mem_append]
    exact ⟨fun h => ⟨h.imp_left hsub, h⟩, And.right⟩
  have hfirst : inByteOrder xs = (inByteOrder (xs ++ ys)).filter fun x => xs.contains x := by
    refine inByteOrder_eq_filter fun x => ?_
    rw [List.contains_iff_mem, List.mem_append]
    exact ⟨fun h => ⟨Or.inl h, h⟩, And.right⟩
  refine (congrArg (List.take n) hleft).trans (take_filter_of_forall fun x hx => ?_)
  rw [List.contains_iff_mem, List.mem_append]
  rcases List.mem_append.mp (mem_inByteOrder.mp (List.mem_of_mem_take hx)) with hxs | hys
  · refine Or.inl ?_
    rw [firstLexemes, hfirst]
    exact mem_take_filter hx (List.contains_iff_mem.mpr hxs)
  · exact Or.inr hys

/-! ## Lexical truncation -/

namespace SearchVector

variable {v existing : SearchVector} {text : List Char} {p : Profile} {limits : IndexLimits}
  {r : AppendResult}

/-- Lexical truncation keeps the first lexemes, whatever their positions are. -/
theorem lexemes_truncate_lexical (v : SearchVector) (n : Nat) :
    (v.truncate n .lexical).lexemes = v.lexemes.take n := by
  simp only [truncate]
  split
  · rw [List.take_of_length_le]
    rwa [← size_eq_length_lexemes]
  · exact lexemes_takeFirst v n

/-- The lexemes of a well-formed vector are in byte order already. -/
theorem WellFormed.inByteOrder_lexemes (hv : v.WellFormed) : inByteOrder v.lexemes = v.lexemes :=
  inByteOrder_eq_self (lexemes_strictly_sorted hv.ascending)

/-- An append that is not refused keeps the first lexemes of the vector and of what is read of the
text. -/
theorem Appending.lexemes_lexical (h : Appending existing text n p limits r)
    (hlex : limits.truncation = .lexical) (hv : existing.WellFormed)
    (hsat : r.outcome ≠ .saturated) (hover : r.outcome ≠ .oversized) :
    r.vector.lexemes =
      firstLexemes n (existing.lexemes ++ (incoming text p limits).lexemes) := by
  have hwf : (existing.combined text p limits).WellFormed := wellFormed_combined hv
  rw [h.lexemes_eq hsat hover, kept, hlex, lexemes_truncate_lexical, ← hwf.inByteOrder_lexemes]
  refine firstLexemes_congr fun x => ?_
  rw [mem_lexemes_combined hv, List.mem_append]

end SearchVector

end EventIntake
