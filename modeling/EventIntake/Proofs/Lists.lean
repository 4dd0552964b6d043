/-!
# Lists without repetitions, and their beginnings

What is known of the beginning of a list after some of it has been left out (`mem_take_filter`,
`take_filter_of_forall`) or up to an element (`takeWhile_bne_append`), and what `eraseDups` and
`eraseReps` keep.
-/

namespace EventIntake

variable {α : Type} {p : α → Bool} {l : List α} {x : α} {n : Nat}

/-! ## Beginnings -/

/-- What stands among the first `n` still does when others are left out. -/
theorem mem_take_filter (h : x ∈ l.take n) (hx : p x = true) : x ∈ (l.filter p).take n := by
  induction l generalizing n with
  | nil => simp at h
  | cons a l ih =>
    cases n with
    | zero => simp at h
    | succ n =>
      rw [List.take_succ_cons, List.mem_cons] at h
      by_cases ha : p a = true
      · rw [List.filter_cons_of_pos ha, List.take_succ_cons, List.mem_cons]
        exact h.imp_right ih
      · rw [List.filter_cons_of_neg ha]
        rcases h with rfl | h
        · exact absurd hx ha
        · exact (List.take_sublist_take_left (Nat.le_succ n)).mem (ih h)

/-- Leaving out none of the first `n` keeps the first `n`. -/
theorem take_filter_of_forall (h : ∀ x ∈ l.take n, p x = true) :
    (l.filter p).take n = l.take n := by
  induction l generalizing n with
  | nil => rfl
  | cons a l ih =>
    cases n with
    | zero => rfl
    | succ n =>
      rw [List.take_succ_cons, List.forall_mem_cons] at h
      rw [List.filter_cons_of_pos h.1, List.take_succ_cons, List.take_succ_cons, ih h.2]

/-- What is too much of two lists together may be left out of each before. -/
theorem take_append_take (l₁ l₂ : List α) (n : Nat) :
    (l₁.take n ++ l₂.take n).take n = (l₁ ++ l₂).take n := by
  rw [List.take_append, List.take_append, List.take_take, List.take_take, List.length_take,
    Nat.min_self]
  refine congrArg (l₁.take n ++ l₂.take ·) ?_
  omega

/-- Taking `n` after a list `a` and what follows of others that are not in it, it is enough to know
the first `n` of the others: no more of these can be in `a` than `a` has places. -/
theorem take_append_filter [BEq α] [LawfulBEq α] {a b : List α} (hb : b.Nodup) (n : Nat) :
    (a ++ (b.take n).filter fun y => !a.contains y).take n =
      (a ++ b.filter fun y => !a.contains y).take n := by
  rcases Nat.lt_or_ge n b.length with hlt | hge
  · have hsplit : (b.filter fun y => !a.contains y) =
        (b.take n).filter (fun y => !a.contains y) ++
          (b.drop n).filter fun y => !a.contains y := by
      rw [← List.filter_append, List.take_append_drop]
    have hcount := List.length_eq_countP_add_countP (fun y => !a.contains y) (l := b.take n)
    rw [List.countP_eq_length_filter, List.countP_eq_length_filter] at hcount
    -- those that are left out are different elements of `a`
    have hfew : ((b.take n).filter fun y => ¬ (!a.contains y) = true).length ≤ a.length := by
      refine List.Nodup.length_le_of_subset ((hb.sublist (List.take_sublist n b)).filter _) ?_
      intro y hy
      simpa using (List.mem_filter.mp hy).2
    rw [List.length_take, Nat.min_eq_left (Nat.le_of_lt hlt)] at hcount
    rw [List.take_append, List.take_append, hsplit, List.take_append_of_le_length]
    omega
  · rw [List.take_of_length_le hge]

/-- Joined lists begin with the first. -/
theorem exists_intercalate_cons (sep l : List α) (ls : List (List α)) :
    ∃ rest, sep.intercalate (l :: ls) = l ++ rest := by
  cases ls with
  | nil => exact ⟨[], by rw [List.intercalate_singleton, List.append_nil]⟩
  | cons l' ls => exact ⟨_, by rw [List.intercalate_cons_cons, List.append_assoc]⟩

variable [BEq α] [LawfulBEq α]

/-! ## Up to an element -/

theorem takeWhile_bne_append (h : x ∉ l) (l' : List α) : (l ++ x :: l').takeWhile (· != x) = l := by
  have hkeep : ∀ a ∈ l, (a != x) = true := fun a ha => bne_iff_ne.mpr fun heq => h (heq ▸ ha)
  rw [List.takeWhile_append_of_pos hkeep, List.takeWhile_cons_of_neg (by simp), List.append_nil]

theorem dropWhile_bne_append (h : x ∉ l) (l' : List α) :
    (l ++ x :: l').dropWhile (· != x) = x :: l' := by
  have hkeep : ∀ a ∈ l, (a != x) = true := fun a ha => bne_iff_ne.mpr fun heq => h (heq ▸ ha)
  rw [List.dropWhile_append_of_pos hkeep, List.dropWhile_cons_of_neg (by simp)]

/-! ## Without repetitions -/

theorem nodup_eraseDups (l : List α) : l.eraseDups.Nodup := by
  induction hlen : l.length using Nat.strongRecOn generalizing l with
  | ind k ih =>
    cases l with
    | nil => exact List.Pairwise.nil
    | cons a l =>
      rw [List.eraseDups_cons, List.nodup_cons]
      constructor
      · intro hmem
        simpa using List.mem_eraseDups.mp hmem
      · refine ih _ ?_ _ rfl
        have hle := List.length_filter_le (fun b => !b == a) l
        rw [List.length_cons] at hlen
        omega

/-- Leaving out repetitions and leaving out by a property come to the same in either order, since
all repetitions of an element have the property or none has. -/
theorem eraseDups_filter (p : α → Bool) (l : List α) :
    (l.filter p).eraseDups = l.eraseDups.filter p := by
  induction hlen : l.length using Nat.strongRecOn generalizing l with
  | ind k ih =>
    cases l with
    | nil => rfl
    | cons a l =>
      have hle := List.length_filter_le (fun b => !b == a) l
      rw [List.length_cons] at hlen
      have hrest := ih _ (by omega) (l.filter fun b => !b == a) rfl
      rw [List.eraseDups_cons]
      by_cases ha : p a = true
      · rw [List.filter_cons_of_pos ha, List.filter_cons_of_pos ha, List.eraseDups_cons, ← hrest,
          List.filter_filter, List.filter_filter]
        refine congrArg (a :: List.eraseDups ·) (List.filter_congr fun b _ => ?_)
        exact Bool.and_comm _ _
      · rw [List.filter_cons_of_neg ha, List.filter_cons_of_neg ha, ← hrest, List.filter_filter]
        refine congrArg List.eraseDups (List.filter_congr fun b _ => ?_)
        by_cases hb : p b = true
        · have hne : (b == a) = false := beq_eq_false_iff_ne.mpr fun hba => ha (hba ▸ hb)
          rw [hb, hne]
          rfl
        · rw [Bool.eq_false_iff.mpr hb, Bool.false_and]

omit [LawfulBEq α] in
/-- The loop puts what it has kept before what it keeps of the rest. -/
theorem eraseReps_loop (a : α) (l acc : List α) :
    List.eraseRepsBy.loop (· == ·) a l acc = acc.reverse ++ (a :: l).eraseReps := by
  induction l generalizing a acc with
  | nil => simp [List.eraseReps, List.eraseRepsBy, List.eraseRepsBy.loop]
  | cons b l ih =>
    rw [List.eraseReps, List.eraseRepsBy, List.eraseRepsBy.loop, List.eraseRepsBy.loop]
    cases a == b with
    | true => simp [ih]
    | false => simp [ih]

omit [LawfulBEq α] in
/-- Of two neighbours, the first is left out if they are equal. -/
theorem eraseReps_cons_cons (a b : α) (l : List α) :
    (a :: b :: l).eraseReps =
      if a == b then (a :: l).eraseReps else a :: (b :: l).eraseReps := by
  rw [List.eraseReps, List.eraseRepsBy, List.eraseRepsBy.loop]
  cases a == b with
  | true => exact eraseReps_loop a l []
  | false => exact eraseReps_loop b l [a]

/-- Runs are shortened, but not left out. -/
theorem mem_eraseReps {l : List α} {x : α} : x ∈ l.eraseReps ↔ x ∈ l := by
  cases l with
  | nil => rfl
  | cons a l =>
    induction l generalizing a with
    | nil => rfl
    | cons b l ih =>
      rw [eraseReps_cons_cons]
      by_cases hab : a = b
      · subst hab
        simp [ih]
      · simp [hab, ih]

/-- Numbers in order are in strict order when runs are shortened. -/
theorem pairwise_eraseReps {l : List Nat} (h : l.Pairwise (· ≤ ·)) :
    l.eraseReps.Pairwise (· < ·) := by
  cases l with
  | nil => exact List.Pairwise.nil
  | cons a l =>
    induction l generalizing a with
    | nil => exact List.pairwise_singleton _ a
    | cons b l ih =>
      obtain ⟨hle, hrest⟩ := List.pairwise_cons.mp h
      rw [eraseReps_cons_cons]
      by_cases hab : a = b
      · subst hab
        rw [if_pos (beq_self_eq_true a)]
        exact ih a hrest
      · rw [if_neg (by simpa using hab), List.pairwise_cons]
        refine ⟨fun x hx => ?_, ih b hrest⟩
        have hlt : a < b := Nat.lt_of_le_of_ne (hle b List.mem_cons_self) hab
        rcases List.mem_cons.mp (mem_eraseReps.mp hx) with rfl | hx
        · exact hlt
        · exact Nat.lt_of_lt_of_le hlt ((List.pairwise_cons.mp hrest).1 x hx)

end EventIntake
