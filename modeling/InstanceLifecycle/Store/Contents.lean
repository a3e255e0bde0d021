import InstanceLifecycle.Store.Table
import Mathlib.Algebra.Order.Group.Multiset
import Mathlib.Data.Multiset.Bind

/-!
# Rows up to their ids

Two stores that inserted the same rows in another order gave them other ids. What does not
depend on the ids is which row carries which dependent rows: the contents of a table are its
data, each with the data of the dependents that name its id. A new row under a fresh id
brings its data with its own dependents, whatever the id.
-/

namespace Store

variable {δ ε ζ : Type} {key : ε → Nat} {content : ε → ζ}

/-- The dependents of a row. -/
def dependents (key : ε → Nat) (content : ε → ζ) (children : Multiset ε) (id : Nat) : Multiset ζ :=
  (children.filter (fun child => key child = id)).map content

/-- The data of the rows, each with the data of its dependents. -/
def contents (key : ε → Nat) (content : ε → ζ) (rows : Multiset (Row δ)) (children : Multiset ε) :
    Multiset (δ × Multiset ζ) :=
  rows.map (fun row => (row.data, dependents key content children row.id))

/-- A new child is a dependent of the row with its key. -/
theorem dependents_own (children : Multiset ε) (child : ε) :
    dependents key content (children + {child}) (key child) =
      dependents key content children (key child) + {content child} := by
  simp [dependents, Multiset.filter_add, Multiset.filter_singleton]

/-- A new child is no dependent of a row with another key. -/
theorem dependents_other (children : Multiset ε) {child : ε} {id : Nat} (other : key child ≠ id) :
    dependents key content (children + {child}) id = dependents key content children id := by
  simp [dependents, Multiset.filter_add, Multiset.filter_singleton, other]

/-- A fresh id has no dependents. -/
theorem dependents_fresh {children : Multiset ε} {id : Nat}
    (fresh : ∀ child ∈ children, key child ≠ id) : dependents key content children id = 0 := by
  rw [dependents, Multiset.filter_eq_nil.mpr fresh, Multiset.map_zero]

/-- A dependent of another row. -/
theorem contents_other {rows : Multiset (Row δ)} (children : Multiset ε) {child : ε}
    (other : ∀ row ∈ rows, key child ≠ row.id) :
    contents key content rows (children + {child}) = contents key content rows children := by
  apply Multiset.map_congr rfl
  intro row member
  rw [dependents_other children (other row member)]

/-- The contents of two collections of rows are those of the one and of the
other, over the same children. -/
theorem contents_add (rows more : Multiset (Row δ)) (children : Multiset ε) :
    contents key content (rows + more) children =
      contents key content rows children + contents key content more children :=
  Multiset.map_add _ rows more

/-- The dependents of rows with distinct ids are, taken together, the children
under one of the rows. No child is under two, so none is counted twice; by
induction on the rows. -/
theorem dependents_bind (rows : List (Row δ)) (distinct : (rows.map Row.id).Nodup)
    (children : Multiset ε) :
    (rows : Multiset (Row δ)).bind (fun row => dependents key content children row.id) =
      (children.filter (fun child => ∃ row ∈ rows, row.id = key child)).map content := by
  induction rows with
  | nil => simp
  | cons row rest ih =>
    rw [List.map_cons, List.nodup_cons] at distinct
    have apart : ∀ child ∈ children, ¬ (key child = row.id ∧ ∃ other ∈ rest, other.id = key child) := by
      rintro child - ⟨own, other, member, same⟩
      exact distinct.1 (List.mem_map.mpr ⟨other, member, same.trans own⟩)
    have both := Multiset.filter_add_filter (fun child => key child = row.id)
      (fun child => ∃ other ∈ rest, other.id = key child) children
    rw [Multiset.filter_eq_nil.mpr apart, add_zero] at both
    rw [← Multiset.cons_coe, Multiset.cons_bind, ih distinct.2, dependents, ← Multiset.map_add, both]
    congr 1
    apply Multiset.filter_congr
    intro child _
    simp [eq_comm]

/-- A row under a fresh id, with its first dependent, adds one entry to the
contents. No child had the id before, and the new child is under no other row.
-/
theorem contents_insert {rows : Multiset (Row δ)} {children : Multiset ε} {id : Nat} (data : δ)
    {child : ε} (freshRow : ∀ row ∈ rows, row.id ≠ id)
    (freshChild : ∀ child ∈ children, key child ≠ id) (own : key child = id) :
    contents key content (rows + {⟨id, data⟩}) (children + {child}) =
      contents key content rows children + {(data, {content child})} := by
  have others : ∀ row ∈ rows, key child ≠ row.id := by
    intro row member same
    exact freshRow row member (same.symm.trans own)
  have first : dependents key content (children + {child}) id = {content child} := by
    subst own
    rw [dependents_own, dependents_fresh freshChild, zero_add]
  rw [contents_add, contents_other children others]
  congr 1
  rw [contents, Multiset.map_singleton, first]

end Store
