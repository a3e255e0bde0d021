import Mathlib.Data.List.Induction
import Mathlib.Data.Set.Basic

/-!
# An inventory of places

Keys that exist and values that are placed on them. A value is placed or taken away, a key is
removed with all that is placed on it, and nothing is placed on a key that does not exist. After
any number of changes the last one about a place decides about it.
-/

namespace Store

variable {κ α : Type}

/-- Which values are placed on which keys, where each value stands on a key that
exists. -/
structure Inventory (κ α : Type) where
  keys : Set κ
  placed : Set (κ × α)
  founded : ∀ place ∈ placed, place.1 ∈ keys

/-- What may be done to an inventory: place a value on a key, take it off, or
remove the key. -/
inductive Change (κ α : Type) where
  | attach (key : κ) (value : α)
  | detach (key : κ) (value : α)
  | delete (key : κ)

namespace Inventory

variable (inventory : Inventory κ α)

/-- Inventories with the same keys and places are the same. -/
theorem eq_of_places {left right : Inventory κ α} (keys : ∀ key, key ∈ left.keys ↔ key ∈ right.keys)
    (placed : ∀ place, place ∈ left.placed ↔ place ∈ right.placed) : left = right := by
  have sameKeys := Set.ext keys
  have samePlaces := Set.ext placed
  cases left
  cases right
  cases sameKeys
  cases samePlaces
  rfl

/-- Place a value on a key, if the key exists. -/
def attach (key : κ) (value : α) : Inventory κ α where
  keys := inventory.keys
  placed := {place | place ∈ inventory.placed ∨ place = (key, value) ∧ key ∈ inventory.keys}
  founded := by
    rintro place (old | ⟨rfl, stored⟩)
    · exact inventory.founded place old
    · exact stored

/-- On a missing key nothing is placed. -/
theorem attach_missing {key : κ} (value : α) (missing : key ∉ inventory.keys) :
    inventory.attach key value = inventory := by
  refine eq_of_places (fun _ => Iff.rfl) fun place => ⟨?_, Or.inl⟩
  rintro (old | ⟨-, stored⟩)
  · exact old
  · exact absurd stored missing

/-- Placing again changes nothing. -/
theorem attach_again {key : κ} {value : α} (there : (key, value) ∈ inventory.placed) :
    inventory.attach key value = inventory := by
  refine eq_of_places (fun _ => Iff.rfl) fun place => ⟨?_, Or.inl⟩
  rintro (old | ⟨rfl, -⟩)
  · exact old
  · exact there

/-- Take a value off a key. -/
def detach (key : κ) (value : α) : Inventory κ α where
  keys := inventory.keys
  placed := {place | place ∈ inventory.placed ∧ place ≠ (key, value)}
  founded := fun place held => inventory.founded place held.1

/-- Remove a key with all that is placed on it. -/
def delete (key : κ) : Inventory κ α where
  keys := {other | other ∈ inventory.keys ∧ other ≠ key}
  placed := {place | place ∈ inventory.placed ∧ place.1 ≠ key}
  founded := fun place held => ⟨inventory.founded place held.1, held.2⟩

/-- Make one change. -/
def apply : Change κ α → Inventory κ α
  | .attach key value => inventory.attach key value
  | .detach key value => inventory.detach key value
  | .delete key => inventory.delete key

/-- The changes one after the other. -/
def replay (changes : List (Change κ α)) : Inventory κ α :=
  changes.foldl Inventory.apply inventory

/-- Changes may be replayed in two stretches. -/
theorem replay_append (earlier later : List (Change κ α)) :
    inventory.replay (earlier ++ later) = (inventory.replay earlier).replay later :=
  List.foldl_append

/-- A change leaves a key unless it deletes it, and adds none. -/
theorem keys_apply (key : κ) (change : Change κ α) :
    key ∈ (inventory.apply change).keys ↔ key ∈ inventory.keys ∧ change ≠ .delete key := by
  cases change with
  | attach other placed => simp [apply, attach]
  | detach other taken => simp [apply, detach]
  | delete other => simp [apply, delete, eq_comm]

/-- A key is there as long as it is not deleted. -/
theorem keys_replay (key : κ) (changes : List (Change κ α)) :
    key ∈ (inventory.replay changes).keys ↔ key ∈ inventory.keys ∧ .delete key ∉ changes := by
  induction changes generalizing inventory with
  | nil => simp [replay]
  | cons change rest ih =>
    rw [replay, List.foldl_cons, ← replay, ih, keys_apply, List.mem_cons, not_or, and_assoc,
      ne_comm]

end Inventory

/-! ## The last change decides -/

section Decision

variable [DecidableEq κ] [DecidableEq α]

/-- What a change decides about a place: nothing, or whether the value is there. -/
def Change.verdict (key : κ) (value : α) : Change κ α → Option Bool
  | .attach other placed => if other = key ∧ placed = value then some true else none
  | .detach other taken => if other = key ∧ taken = value then some false else none
  | .delete _ => none

/-- What the last of the changes about a place decides, `none` if there is none. -/
def decision (key : κ) (value : α) (changes : List (Change κ α)) : Option Bool :=
  (changes.filterMap (Change.verdict key value)).getLast?

/-- One change more decides, if it is about the place. -/
theorem decision_concat (key : κ) (value : α) (earlier : List (Change κ α))
    (change : Change κ α) : decision key value (earlier ++ [change]) =
      (change.verdict key value).or (decision key value earlier) := by
  rw [decision, decision, List.filterMap_append]
  cases decided : change.verdict key value with
  | none => simp [decided]
  | some placed => simp [decided]

namespace Inventory

variable (inventory : Inventory κ α) (key : κ)

/-- After a change a value is placed if its key is there and the change placed
it, or said nothing and it was placed before. -/
theorem placed_apply (value : α) (change : Change κ α) :
    (key, value) ∈ (inventory.apply change).placed ↔
      key ∈ (inventory.apply change).keys ∧ (change.verdict key value = some true ∨
        change.verdict key value = none ∧ (key, value) ∈ inventory.placed) := by
  have founded := inventory.founded (key, value)
  rw [keys_apply]
  cases change with
  | attach other placed =>
    simp only [apply, attach, Change.verdict, Set.mem_ofPred_eq]
    grind
  | detach other taken =>
    simp only [apply, detach, Change.verdict, Set.mem_ofPred_eq]
    grind
  | delete other =>
    simp only [apply, delete, Change.verdict, Set.mem_ofPred_eq]
    grind

/-- A value is placed in the end if its key is still there, and the last change about the place
put it there, or none was about it and it was there before. -/
theorem placed_replay (value : α) (changes : List (Change κ α)) :
    (key, value) ∈ (inventory.replay changes).placed ↔
      key ∈ (inventory.replay changes).keys ∧ (decision key value changes = some true ∨
        decision key value changes = none ∧ (key, value) ∈ inventory.placed) := by
  induction changes using List.reverseRecOn with
  | nil =>
    have founded := inventory.founded (key, value)
    simpa [replay, decision] using founded
  | append_singleton earlier change ih =>
    have last : inventory.replay (earlier ++ [change]) =
        (inventory.replay earlier).apply change := inventory.replay_append earlier [change]
    rw [last, placed_apply, ih, keys_apply, decision_concat]
    cases change.verdict key value with
    | none => grind
    | some placed => simp

end Inventory

end Decision

end Store
