import EventIntake.Proofs.Store.Operations
import Mathlib.Data.List.Nodup

/-!
# Tables of numbered rows

The rows of some tables have numbers. An operation changes rows of such a table but for their numbers,
and adds at most one row, which it gives the next number (`NumberedTable`). So a row that is there
stays under its number, with all that a run makes of it (`find?_run`). What is there after a run from
the empty store is what the run added (`isSome_find?_run_iff`), and no two rows of it have the same
number (`nodup_numbers_run`).
-/

namespace EventIntake.Store

variable {s : Store} {op : Operation} {ops before after : List Operation} {n : Nat}

/-! ## The next number -/

/-- The next number is not given yet. -/
theorem nextId_not_mem (ids : List Nat) : nextId ids ∉ ids := by
  intro h
  have hle : nextId ids ≤ ids.max?.getD 0 := List.le_max?_getD_of_mem h
  rw [nextId, List.foldl_max, Nat.zero_max] at hle
  exact Nat.not_succ_le_self _ hle

/-! ## Tables -/

/-- A table whose rows have numbers, with what an operation does to it. -/
structure NumberedTable (α : Type) where
  rows : Store → List α
  number : α → Nat
  /-- what an operation makes of a row that is there -/
  change : Operation → α → α
  /-- the row that an operation adds, if it adds one -/
  added? : Store → Operation → Option α
  rows_empty : rows empty = []
  rows_perform : ∀ s op, rows (s.perform op).2 = (rows s).map (change op) ++ (added? s op).toList
  /-- a row keeps its number -/
  number_change : ∀ op row, number (change op row) = number row
  /-- a new row has the next number -/
  number_added : ∀ {s op row}, added? s op = some row → number row = nextId ((rows s).map number)

namespace NumberedTable

variable {α : Type} (T : NumberedTable α) {row : α}

/-- The row with a number. -/
def find? (s : Store) (n : Nat) : Option α :=
  (T.rows s).find? (T.number · = n)

/-- The numbers of the rows. -/
def numbers (s : Store) : List Nat :=
  (T.rows s).map T.number

/-- What operations make of a row that is there, one after another. -/
def changes (ops : List Operation) (row : α) : α :=
  ops.foldl (fun row op => T.change op row) row

theorem changes_cons (op : Operation) (ops : List Operation) (row : α) :
    T.changes (op :: ops) row = T.changes ops (T.change op row) :=
  rfl

theorem isSome_find?_iff : (T.find? s n).isSome = true ↔ n ∈ T.numbers s := by
  rw [find?, List.find?_isSome, numbers, List.mem_map]
  simp only [decide_eq_true_eq]

/-- The numbers stay, and a new row has the next one. -/
theorem numbers_perform (s : Store) (op : Operation) :
    T.numbers (s.perform op).2 = T.numbers s ++ ((T.added? s op).map T.number).toList := by
  rw [numbers, T.rows_perform, List.map_append, List.map_map]
  refine congr (congrArg _ (List.map_congr_left fun row _ => T.number_change op row)) ?_
  cases T.added? s op <;> rfl

/-! ## Rows that stay -/

/-- A row that is there stays under its number. -/
theorem find?_perform (h : T.find? s n = some row) (op : Operation) :
    T.find? (s.perform op).2 n = some (T.change op row) := by
  rw [find?] at h ⊢
  rw [T.rows_perform, List.find?_append, List.find?_map]
  simp only [Function.comp_def, T.number_change]
  rw [h]
  rfl

/-- A row that is there stays under its number through a run. -/
theorem find?_run (h : T.find? s n = some row) (ops : List Operation) :
    T.find? (s.run ops) n = some (T.changes ops row) := by
  induction ops generalizing s row with
  | nil => exact h
  | cons op ops ih => exact ih (T.find?_perform h op)

/-! ## Rows that are new -/

/-- A new row is found under its number. -/
theorem find?_added (h : T.added? s op = some row) :
    T.find? (s.perform op).2 (T.number row) = some row := by
  have hnone : T.find? s (T.number row) = none := by
    rw [← Option.not_isSome_iff_eq_none, isSome_find?_iff, T.number_added h]
    exact nextId_not_mem _
  rw [find?] at hnone ⊢
  rw [T.rows_perform, List.find?_append, List.find?_map]
  simp only [Function.comp_def, T.number_change]
  rw [hnone, h, Option.map_none, Option.none_or]
  exact List.find?_cons_of_pos (decide_eq_true rfl)

/-- A row that a run added is there after it, as the rest of the run has changed it. -/
theorem find?_run_added (h : T.added? (s.run before) op = some row) (after : List Operation) :
    T.find? (s.run (before ++ op :: after)) (T.number row) = some (T.changes after row) := by
  rw [run_append, run_cons]
  exact T.find?_run (T.find?_added h) after

/-- What is there after a run from the empty store is what the run added. -/
theorem isSome_find?_run_iff :
    (T.find? (empty.run ops) n).isSome = true ↔
      ∃ before op after row, ops = before ++ op :: after ∧
        T.added? (empty.run before) op = some row ∧ T.number row = n := by
  constructor
  · intro h
    have hempty : n ∉ T.numbers empty := by simp [numbers, T.rows_empty]
    obtain ⟨before, op, after, hsplit, hbefore, hafter⟩ :=
      exists_first (P := fun s => n ∈ T.numbers s) hempty (T.isSome_find?_iff.mp h)
    rw [T.numbers_perform] at hafter
    have hnew := (List.mem_append.mp hafter).resolve_left hbefore
    obtain ⟨row, hadded, hnumber⟩ := Option.map_eq_some_iff.mp (Option.mem_toList.mp hnew)
    exact ⟨before, op, after, row, hsplit, hadded, hnumber⟩
  · rintro ⟨before, op, after, row, rfl, hadded, rfl⟩
    exact Option.isSome_of_eq_some (T.find?_run_added hadded after)

/-! ## Rows are told apart -/

/-- An operation keeps the numbers distinct, because the number of a new row is not taken yet. -/
theorem nodup_numbers_perform (h : (T.numbers s).Nodup) (op : Operation) :
    (T.numbers (s.perform op).2).Nodup := by
  rw [T.numbers_perform]
  rcases hadded : T.added? s op with _ | row
  · simpa using h
  · rw [Option.map_some, Option.toList_some, ← List.concat_eq_append, T.number_added hadded]
    exact h.concat (nextId_not_mem _)

/-- No two rows of a table have the same number after a run from the empty store. -/
theorem nodup_numbers_run (ops : List Operation) : (T.numbers (empty.run ops)).Nodup := by
  refine run_keeps (P := fun s => (T.numbers s).Nodup) ?_ fun op _ s h =>
    T.nodup_numbers_perform h op
  rw [numbers, T.rows_empty]
  exact List.nodup_nil

end NumberedTable

end EventIntake.Store
