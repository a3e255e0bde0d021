import Mathlib.Data.List.Nodup
import Mathlib.Data.List.Perm.Basic

/-!
# Tables with serial row ids

A table gives every inserted row the next number of its own sequence, and never
gives a number again, not even after a delete. That ids are distinct and below
the sequence is part of the table, so an insert is fresh without a hypothesis.
-/

namespace Store

/-- A row under its id. -/
structure Row (δ : Type) where
  id : Nat
  data : δ
deriving DecidableEq

/-- Rows in insertion order and the next number of the sequence. -/
structure Table (δ : Type) where
  rows : List (Row δ)
  next : Nat
  serial : ∀ row ∈ rows, row.id < next
  distinct : (rows.map Row.id).Nodup

namespace Table

variable {δ : Type}

/-- The table without rows, whose sequence begins at zero. -/
def empty : Table δ := ⟨[], 0, by simp, by simp⟩

/-- With a new row all ids stay below the sequence. -/
theorem serial_append (table : Table δ) (data : δ) :
    ∀ row ∈ table.rows ++ [⟨table.next, data⟩], row.id < table.next + 1 := by
  intro row member
  rcases List.mem_append.mp member with old | new
  · exact Nat.lt_succ_of_lt (table.serial row old)
  · rw [List.mem_singleton.mp new]
    exact Nat.lt_succ_self _

/-- And they stay distinct, since the new one is not below it. -/
theorem distinct_append (table : Table δ) (data : δ) :
    ((table.rows ++ [(⟨table.next, data⟩ : Row δ)]).map Row.id).Nodup := by
  rw [List.map_append, List.nodup_append]
  refine ⟨table.distinct, List.nodup_singleton _, ?_⟩
  intro id member last new same
  obtain ⟨row, stored, rfl⟩ := List.mem_map.mp member
  have below := table.serial row stored
  simp only [List.map_cons, List.map_nil, List.mem_singleton] at new
  omega

/-- Insert a row under the next id. The two fields are kept by the lemmas above. -/
def insert (table : Table δ) (data : δ) : Table δ where
  rows := table.rows ++ [⟨table.next, data⟩]
  next := table.next + 1
  serial := table.serial_append data
  distinct := table.distinct_append data

/-- Delete the rows that fail a test. The sequence stays, so no id is given
twice. -/
def keep (table : Table δ) (test : Row δ → Bool) : Table δ where
  rows := table.rows.filter test
  next := table.next
  serial := fun row member => table.serial row (List.mem_filter.mp member).1
  distinct := table.distinct.sublist (List.filter_sublist.map _)

/-- Rewrite the data of the rows that pass a test; ids stay. -/
def rewrite (table : Table δ) (test : Row δ → Bool) (change : δ → δ) : Table δ where
  rows := table.rows.map (fun row => if test row then ⟨row.id, change row.data⟩ else row)
  next := table.next
  serial := by
    intro row member
    obtain ⟨old, stored, rfl⟩ := List.mem_map.mp member
    have below := table.serial old stored
    split <;> exact below
  distinct := by
    have ids : (table.rows.map (fun row => if test row then (⟨row.id, change row.data⟩ : Row δ)
        else row)).map Row.id = table.rows.map Row.id := by
      rw [List.map_map]
      apply List.map_congr_left
      intro row _
      simp only [Function.comp]
      split <;> rfl
    rw [ids]
    exact table.distinct

/-- The rows after an insert are the old ones and the new one. -/
theorem mem_insert (table : Table δ) (data : δ) (row : Row δ) :
    row ∈ (table.insert data).rows ↔ row ∈ table.rows ∨ row = ⟨table.next, data⟩ := by
  simp [insert]

/-- The rows left are those that pass the test. -/
theorem mem_keep (table : Table δ) (test : Row δ → Bool) (row : Row δ) :
    row ∈ (table.keep test).rows ↔ row ∈ table.rows ∧ test row = true :=
  List.mem_filter

/-- Every row after a rewrite is an old one, changed if it was chosen. -/
theorem mem_rewrite (table : Table δ) (test : Row δ → Bool) (change : δ → δ) (row : Row δ) :
    row ∈ (table.rewrite test change).rows ↔
      ∃ old ∈ table.rows, (if test old then ⟨old.id, change old.data⟩ else old) = row := by
  simp [rewrite]

/-- Two stored rows with one id are one row. -/
theorem row_unique (table : Table δ) {left right : Row δ} (leftStored : left ∈ table.rows)
    (rightStored : right ∈ table.rows) (same : left.id = right.id) : left = right :=
  List.inj_on_of_nodup_map table.distinct leftStored rightStored same

/-- Tables with the same rows and sequence are the same. -/
theorem eq_of_rows {left right : Table δ} (rows : left.rows = right.rows)
    (next : left.next = right.next) : left = right := by
  cases left
  cases right
  cases rows
  cases next
  rfl

/-- Only the stored rows are tested. -/
theorem keep_congr (table : Table δ) {test other : Row δ → Bool}
    (same : ∀ row ∈ table.rows, test row = other row) : table.keep test = table.keep other :=
  eq_of_rows (List.filter_congr same) rfl

/-- Two tests in turn are one test for both. -/
theorem keep_keep (table : Table δ) (test other : Row δ → Bool) :
    (table.keep test).keep other = table.keep (fun row => test row && other row) := by
  refine eq_of_rows ?_ rfl
  simp only [keep, List.filter_filter, Bool.and_comm]

/-- A change that makes no difference when repeated may be repeated, by the rows
one by one. -/
theorem rewrite_twice (table : Table δ) (id : Nat) (change : δ → δ)
    (idempotent : ∀ data, change (change data) = change data) :
    (table.rewrite (fun row => decide (row.id = id)) change).rewrite
        (fun row => decide (row.id = id)) change =
      table.rewrite (fun row => decide (row.id = id)) change := by
  refine eq_of_rows ?_ rfl
  simp only [rewrite, List.map_map]
  apply List.map_congr_left
  intro row _
  by_cases own : row.id = id
  · simp [own, idempotent]
  · simp [own]

/-- A change that changes nothing leaves the table alone. -/
theorem rewrite_same (table : Table δ) (test : Row δ → Bool) (change : δ → δ)
    (same : ∀ data, change data = data) : table.rewrite test change = table := by
  refine eq_of_rows ?_ rfl
  have unchanged : ∀ row ∈ table.rows,
      (if test row then (⟨row.id, change row.data⟩ : Row δ) else row) = id row := by
    intro row _
    rw [same]
    split <;> rfl
  exact (List.map_congr_left unchanged).trans (List.map_id _)

/-- No row has the next id. -/
theorem next_absent (table : Table δ) : ∀ row ∈ table.rows, row.id ≠ table.next := by
  intro row stored same
  have below := table.serial row stored
  omega

end Table

end Store
