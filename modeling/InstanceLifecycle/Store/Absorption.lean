import Mathlib.Data.List.Perm.Basic

/-!
# Operations that absorb repetition

Operations on a state that commute, and of which a second one of a kind changes nothing. A
sequence of them leads to a state that only the set of its members determines: order and
repetitions play no role.
-/

namespace Store

variable {σ α : Type}

/-- The order of the operations plays no role, and one of a kind is as good as two. -/
structure Absorbs (act : σ → α → σ) : Prop where
  commutes : ∀ state first second,
    act (act state first) second = act (act state second) first
  repeats : ∀ state item, act (act state item) item = act state item

namespace Absorbs

variable {act : σ → α → σ} (absorbs : Absorbs act)

include absorbs

/-- An operation after the sequence could as well have come before it. -/
theorem foldl_act (items : List α) (state : σ) (item : α) :
    act (items.foldl act state) item = items.foldl act (act state item) := by
  induction items generalizing state with
  | nil => rfl
  | cons first rest ih =>
    rw [List.foldl_cons, List.foldl_cons, ih, absorbs.commutes]

/-- A member of the sequence changes nothing after it. -/
theorem foldl_member {items : List α} {item : α} (member : item ∈ items) (state : σ) :
    act (items.foldl act state) item = items.foldl act state := by
  induction items generalizing state with
  | nil => cases member
  | cons first rest ih =>
    rcases List.mem_cons.mp member with rfl | later
    · rw [List.foldl_cons, absorbs.foldl_act, absorbs.repeats]
    · exact ih later (act state first)

/-- A sequence of members changes nothing after it. -/
theorem foldl_members {items : List α} (again : List α) (members : ∀ item ∈ again, item ∈ items)
    (state : σ) : again.foldl act (items.foldl act state) = items.foldl act state := by
  induction again with
  | nil => rfl
  | cons first rest ih =>
    rw [List.foldl_cons, absorbs.foldl_member (members first List.mem_cons_self)]
    exact ih fun item later => members item (List.mem_cons_of_mem first later)

/-- Two sequences with the same members lead to the same state: each absorbs the
other after it, and steps commute. -/
theorem foldl_same {left right : List α} (same : ∀ item, item ∈ left ↔ item ∈ right)
    (state : σ) : left.foldl act state = right.foldl act state :=
  calc left.foldl act state
      = (left ++ right).foldl act state := by
        rw [List.foldl_append]
        exact (absorbs.foldl_members right (fun item member => (same item).mpr member) state).symm
    _ = (right ++ left).foldl act state :=
        List.perm_append_comm.foldl_eq' (fun first _ second _ state =>
          absorbs.commutes state first second) state
    _ = right.foldl act state := by
        rw [List.foldl_append]
        exact absorbs.foldl_members left (fun item member => (same item).mp member) state

end Absorbs

end Store
