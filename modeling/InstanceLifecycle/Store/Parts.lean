import InstanceLifecycle.Store.Table

/-!
# Parts of a table

The part of a table that passes a test, under the operations of a table. An operation on rows
outside the part leaves the part as it is; one on rows inside it is the same operation on the
part. A rewrite belongs to one of the two cases when it does not move rows in or out.

Rows refer to each other by id, so a test is also asked of the row with an id.
-/

namespace Store.Table

variable {δ : Type} (table : Table δ) (test : Row δ → Bool)

/-- Is there a row with this id, and does it pass the test? -/
def passes (id : Nat) : Bool :=
  table.rows.any (fun row => decide (row.id = id) && test row)

/-- A test passes at an id when the row stored there passes it. -/
theorem passes_iff (id : Nat) :
    table.passes test id = true ↔ ∃ row ∈ table.rows, row.id = id ∧ test row = true := by
  simp [passes]

/-- It fails when every row of the id fails it, in particular when none is
stored. -/
theorem passes_false_iff (id : Nat) :
    table.passes test id = false ↔ ∀ row ∈ table.rows, row.id = id → test row = false := by
  simp [passes]

/-- The test of a stored row is the one of its id. -/
theorem passes_stored {row : Row δ} (stored : row ∈ table.rows) :
    table.passes test row.id = test row := by
  cases passed : test row with
  | true => exact (table.passes_iff test row.id).mpr ⟨row, stored, rfl, passed⟩
  | false =>
    rw [passes_false_iff]
    intro other there same
    rw [table.row_unique there stored same]
    exact passed

/-- An id that was not given yet has no row, so no test passes there. -/
theorem passes_below {id : Nat} (passed : table.passes test id = true) : id < table.next := by
  obtain ⟨row, stored, rfl, _⟩ := (table.passes_iff test id).mp passed
  exact table.serial row stored

/-- An insert changes nothing for the ids given before. -/
theorem passes_insert (data : δ) {id : Nat} (old : id < table.next) :
    (table.insert data).passes test id = table.passes test id := by
  have other : table.next ≠ id := by omega
  simp [passes, insert, other]

/-- At the new id the new row decides. -/
theorem passes_insert_next (data : δ) :
    (table.insert data).passes test table.next = test ⟨table.next, data⟩ := by
  have new : (⟨table.next, data⟩ : Row δ) ∈ (table.insert data).rows :=
    (table.mem_insert data _).mpr (Or.inr rfl)
  exact (table.insert data).passes_stored test new

/-- A new row that fails the test answers for no id. -/
theorem passes_insert_spared (data : δ) (spared : test ⟨table.next, data⟩ = false) (id : Nat) :
    (table.insert data).passes test id = table.passes test id := by
  simp [passes, insert, spared]

/-- A row is found under its id if the test finds it in either table. -/
theorem passes_congr {table other : Table δ} {test weaker : Row δ → Bool} {id : Nat}
    (left : ∀ row ∈ table.rows, row.id = id → test row = true →
      ∃ same ∈ other.rows, same.id = id ∧ weaker same = true)
    (right : ∀ row ∈ other.rows, row.id = id → weaker row = true →
      ∃ same ∈ table.rows, same.id = id ∧ test same = true) :
    table.passes test id = other.passes weaker id := by
  rw [Bool.eq_iff_iff, passes_iff, passes_iff]
  constructor
  · rintro ⟨row, stored, same, passed⟩
    exact left row stored same passed
  · rintro ⟨row, stored, same, passed⟩
    exact right row stored same passed

/-- Rows that fail the test may be taken away. -/
theorem passes_keep (kept : Row δ → Bool)
    (spared : ∀ row ∈ table.rows, kept row = false → test row = false) (id : Nat) :
    (table.keep kept).passes test id = table.passes test id := by
  apply passes_congr
  · intro row stored same passed
    exact ⟨row, ((table.mem_keep kept row).mp stored).1, same, passed⟩
  · intro row stored same passed
    refine ⟨row, (table.mem_keep kept row).mpr ⟨stored, ?_⟩, same, passed⟩
    by_contra dropped
    rw [spared row stored (by simpa using dropped)] at passed
    cases passed

/-- Taking rows away makes no test pass. -/
theorem passes_of_keep (kept : Row δ → Bool) {id : Nat}
    (passed : (table.keep kept).passes test id = true) : table.passes test id = true := by
  obtain ⟨row, stored, same, own⟩ := ((table.keep kept).passes_iff test id).mp passed
  exact (table.passes_iff test id).mpr ⟨row, ((table.mem_keep kept row).mp stored).1, same, own⟩

/-- What the part answers for a test is what the table answers for both. -/
theorem passes_keep_and (kept : Row δ → Bool) (id : Nat) :
    (table.keep kept).passes test id = table.passes (fun row => kept row && test row) id := by
  apply passes_congr
  · intro row stored same passed
    obtain ⟨there, held⟩ := (table.mem_keep kept row).mp stored
    exact ⟨row, there, same, by simp [held, passed]⟩
  · intro row stored same passed
    rw [Bool.and_eq_true] at passed
    exact ⟨row, (table.mem_keep kept row).mpr ⟨stored, passed.1⟩, same, passed.2⟩

/-- A disjunction of tests passes where one of them does, for there is one row
at most. -/
theorem passes_or (other : Row δ → Bool) (id : Nat) :
    table.passes (fun row => test row || other row) id =
      (table.passes test id || table.passes other id) := by
  rw [Bool.eq_iff_iff, Bool.or_eq_true, passes_iff, passes_iff, passes_iff]
  constructor
  · rintro ⟨row, stored, same, passed⟩
    rcases Bool.or_eq_true _ _ ▸ passed with left | right
    · exact Or.inl ⟨row, stored, same, left⟩
    · exact Or.inr ⟨row, stored, same, right⟩
  · rintro (⟨row, stored, same, passed⟩ | ⟨row, stored, same, passed⟩)
    · exact ⟨row, stored, same, by simp [passed]⟩
    · exact ⟨row, stored, same, by simp [passed]⟩

/-- A test is passed by more rows than a narrower one. -/
theorem passes_mono {narrow : Row δ → Bool} (narrower : ∀ row, narrow row = true → test row = true)
    {id : Nat} (passed : table.passes narrow id = true) : table.passes test id = true := by
  obtain ⟨row, stored, same, own⟩ := (table.passes_iff narrow id).mp passed
  exact (table.passes_iff test id).mpr ⟨row, stored, same, narrower row own⟩

/-- A rewrite that does not move rows in or out does not change the answer. -/
theorem passes_rewrite (chosen : Row δ → Bool) (change : δ → δ)
    (stable : ∀ row ∈ table.rows, chosen row = true → test ⟨row.id, change row.data⟩ = test row)
    (id : Nat) : (table.rewrite chosen change).passes test id = table.passes test id := by
  apply passes_congr
  · intro row stored same passed
    obtain ⟨old, there, rfl⟩ := (table.mem_rewrite chosen change row).mp stored
    refine ⟨old, there, ?_, ?_⟩
    · split at same <;> exact same
    · split at passed
      · rename_i chose
        rwa [stable old there chose] at passed
      · exact passed
  · intro row stored same passed
    refine ⟨_, (table.mem_rewrite chosen change _).mpr ⟨row, stored, rfl⟩, ?_, ?_⟩
    · split <;> exact same
    · split
      · rename_i chose
        rwa [stable row stored chose]
      · exact passed

/-- The part that every row belongs to is the table. -/
theorem keep_all (every : ∀ row ∈ table.rows, test row = true) : table.keep test = table :=
  eq_of_rows (List.filter_eq_self.mpr every) rfl

/-! ## Rows outside the part -/

/-- A new row outside the part leaves its rows alone; its sequence moves on. -/
theorem keep_insert_spared (data : δ) (spared : test ⟨table.next, data⟩ = false) :
    ((table.insert data).keep test).rows = (table.keep test).rows := by
  simp [keep, insert, List.filter_append, spared]

/-- Taking away rows outside the part leaves it alone. -/
theorem keep_keep_spared (kept : Row δ → Bool)
    (spared : ∀ row ∈ table.rows, kept row = false → test row = false) :
    (table.keep kept).keep test = table.keep test := by
  rw [keep_keep]
  apply keep_congr
  intro row stored
  cases drops : kept row with
  | true => rfl
  | false => exact (spared row stored drops).symm

/-- Rewriting rows that are outside the part before and after leaves the part as
it is, row by row. -/
theorem keep_rewrite_spared (chosen : Row δ → Bool) (change : δ → δ)
    (spared : ∀ row ∈ table.rows, chosen row = true →
      test row = false ∧ test ⟨row.id, change row.data⟩ = false) :
    (table.rewrite chosen change).keep test = table.keep test := by
  refine eq_of_rows ?_ rfl
  have pointwise : ∀ rows : List (Row δ), rows ⊆ table.rows →
      (rows.map (fun row => if chosen row then (⟨row.id, change row.data⟩ : Row δ) else row)).filter
        test = rows.filter test := by
    intro rows within
    induction rows with
    | nil => rfl
    | cons row rest ih =>
      have tail := ih fun other member => within (List.mem_cons_of_mem row member)
      by_cases chose : chosen row = true
      · obtain ⟨before, after⟩ := spared row (within List.mem_cons_self) chose
        simp [chose, before, after, tail]
      · simp [chose, List.filter_cons, tail]
  exact pointwise table.rows (List.Subset.refl _)

/-! ## Rows inside the part -/

/-- A new row of the part may be inserted before or after taking it. -/
theorem keep_insert_own (data : δ) (own : test ⟨table.next, data⟩ = true) :
    (table.insert data).keep test = (table.keep test).insert data := by
  refine eq_of_rows ?_ rfl
  simp [keep, insert, List.filter_append, own]

/-- Two parts may be taken in either order. -/
theorem keep_comm (kept : Row δ → Bool) :
    (table.keep kept).keep test = (table.keep test).keep kept := by
  rw [keep_keep, keep_keep]
  exact table.keep_congr fun row _ => Bool.and_comm _ _

/-- A rewrite that keeps every row on its side may be done before or after
taking the part. -/
theorem keep_rewrite_own (chosen : Row δ → Bool) (change : δ → δ)
    (stable : ∀ row ∈ table.rows, chosen row = true → test ⟨row.id, change row.data⟩ = test row) :
    (table.rewrite chosen change).keep test = (table.keep test).rewrite chosen change := by
  refine eq_of_rows ?_ rfl
  simp only [keep, rewrite, List.filter_map]
  congr 1
  apply List.filter_congr
  intro row stored
  simp only [Function.comp]
  split
  · rename_i chose
    exact stable row stored chose
  · rfl

/-- Rows a condition implies the test of are selected alike from the part. -/
theorem filter_part (condition : Row δ → Bool)
    (own : ∀ row ∈ table.rows, condition row = true → test row = true) :
    (table.keep test).rows.filter condition = table.rows.filter condition := by
  simp only [keep, List.filter_filter]
  apply List.filter_congr
  intro row stored
  cases holds : condition row with
  | true => rw [own row stored holds, Bool.and_self]
  | false => rfl

/-- A search whose hits are all in the part finds the same row there. -/
theorem find_part (condition : Row δ → Bool)
    (own : ∀ row ∈ table.rows, condition row = true → test row = true) :
    (table.keep test).rows.find? condition = table.rows.find? condition := by
  rw [← List.head?_filter, ← List.head?_filter, table.filter_part test condition own]

end Store.Table
