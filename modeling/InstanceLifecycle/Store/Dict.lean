import Mathlib.Data.List.Nodup

/-!
# Insertion-ordered dictionaries

Entries stand in the order their keys were first inserted; writing a present key
replaces its value in place. Distinctness of the keys is part of the value, so
no operation can build a dictionary in which a key has two values.
-/

namespace Store

/-- Replace the value of a present key, or append a new entry. -/
def setEntry {κ ν : Type} [DecidableEq κ] (key : κ) (value : ν) : List (κ × ν) → List (κ × ν)
  | [] => [(key, value)]
  | entry :: rest =>
      if entry.1 = key then (key, value) :: rest else entry :: setEntry key value rest

/-- Writing a key that is present leaves the keys alone, and a new key goes to
the end. By induction on the entries. -/
theorem setEntry_keys {κ ν : Type} [DecidableEq κ] (key : κ) (value : ν)
    (entries : List (κ × ν)) :
    (setEntry key value entries).map Prod.fst =
      if key ∈ entries.map Prod.fst then entries.map Prod.fst
      else entries.map Prod.fst ++ [key] := by
  induction entries with
  | nil => simp [setEntry]
  | cons entry rest ih =>
    by_cases same : entry.1 = key
    · simp [setEntry, same]
    · have different : key ≠ entry.1 := fun equal => same equal.symm
      simp only [setEntry, same, if_false, List.map_cons, ih, List.mem_cons, different, false_or]
      split <;> simp

/-- An entry after a write is the one written or an old one. -/
theorem mem_setEntry {κ ν : Type} [DecidableEq κ] (key : κ) (value : ν) (entries : List (κ × ν))
    (entry : κ × ν) (member : entry ∈ setEntry key value entries) :
    entry = (key, value) ∨ entry ∈ entries := by
  induction entries with
  | nil => exact Or.inl (List.mem_singleton.mp member)
  | cons first rest ih =>
    rw [setEntry] at member
    split at member
    · rcases List.mem_cons.mp member with new | old
      · exact Or.inl new
      · exact Or.inr (List.mem_cons_of_mem first old)
    · rcases List.mem_cons.mp member with same | later
      · exact Or.inr (same ▸ List.mem_cons_self)
      · rcases ih later with new | old
        · exact Or.inl new
        · exact Or.inr (List.mem_cons_of_mem first old)

/-- Among items with keys of their own no other item has the key of an item. -/
theorem filter_own_key {α κ : Type} [DecidableEq κ] (key : α → κ) {items : List α}
    (distinct : (items.map key).Nodup) {item : α} (member : item ∈ items) :
    items.filter (fun other => key other = key item) = [item] := by
  induction items with
  | nil => cases member
  | cons first rest ih =>
    rw [List.map_cons, List.nodup_cons] at distinct
    rcases List.mem_cons.mp member with rfl | later
    · have alone : rest.filter (fun other => key other = key item) = [] := by
        rw [List.filter_eq_nil_iff]
        intro other present same
        rw [decide_eq_true_eq] at same
        exact distinct.1 (List.mem_map.mpr ⟨other, present, same⟩)
      rw [List.filter_cons, if_pos (decide_eq_true rfl), alone]
    · have different : key first ≠ key item := fun same =>
        distinct.1 (List.mem_map.mpr ⟨item, later, same.symm⟩)
      rw [List.filter_cons, if_neg (by simpa using different), ih distinct.2 later]

/-- A mapping with distinct keys in insertion order, as Python's `dict` keeps
it. The field makes a repeated key impossible, so no lemma has to exclude one. -/
structure Dict (κ ν : Type) where
  entries : List (κ × ν)
  distinct : (entries.map Prod.fst).Nodup

namespace Dict

variable {κ ν : Type}

/-- Mappings with the same entries are the same. -/
@[ext]
theorem ext {left right : Dict κ ν} (same : left.entries = right.entries) : left = right := by
  cases left
  cases right
  cases same
  rfl

/-- The mapping without entries. -/
def empty : Dict κ ν := ⟨[], by simp⟩

/-- The keys in insertion order. -/
def keys (dict : Dict κ ν) : List κ := dict.entries.map Prod.fst

/-- The values in the order of their keys. -/
def values (dict : Dict κ ν) : List ν := dict.entries.map Prod.snd

/-- Keep the entries whose key passes a test, in their order. It models a
comprehension with a condition on the key. -/
def filterKeys (dict : Dict κ ν) (keep : κ → Bool) : Dict κ ν :=
  ⟨dict.entries.filter (fun entry => keep entry.1),
    dict.distinct.sublist (List.filter_sublist.map _)⟩

/-- The keys left are those that were present and pass the test. -/
theorem mem_keys_filterKeys (dict : Dict κ ν) (keep : κ → Bool) (key : κ) :
    key ∈ (dict.filterKeys keep).keys ↔ key ∈ dict.keys ∧ keep key = true := by
  simp only [keys, filterKeys, List.mem_map, List.mem_filter]
  constructor
  · rintro ⟨entry, ⟨member, kept⟩, rfl⟩
    exact ⟨⟨entry, member, rfl⟩, kept⟩
  · rintro ⟨⟨entry, member, rfl⟩, kept⟩
    exact ⟨entry, ⟨member, kept⟩, rfl⟩

/-- Two tests on the keys may be applied in either order. -/
theorem filterKeys_comm (dict : Dict κ ν) (keep also : κ → Bool) :
    (dict.filterKeys keep).filterKeys also = (dict.filterKeys also).filterKeys keep := by
  apply Dict.ext
  simp only [filterKeys, List.filter_filter, Bool.and_comm]

variable [DecidableEq κ]

/-- The value of a key, `none` where Python's `get` answers `None` by default. -/
def get? (dict : Dict κ ν) (key : κ) : Option ν :=
  (dict.entries.find? (fun entry => entry.1 = key)).map Prod.snd

/-- Is the key present? -/
def contains (dict : Dict κ ν) (key : κ) : Bool := (dict.get? key).isSome

/-- Write one entry: in place if its key is present, at the end otherwise. -/
def set (dict : Dict κ ν) (key : κ) (value : ν) : Dict κ ν :=
  ⟨setEntry key value dict.entries, by
    rw [setEntry_keys]
    split
    · exact dict.distinct
    · rename_i absent
      exact List.nodup_append.mpr ⟨dict.distinct, by simp, by
        intro present member last equal same
        simp only [List.mem_singleton] at equal
        exact absent (equal ▸ same ▸ member)⟩⟩

/-- Write the entries of a list one after the other, so that of two with one key
the later wins. -/
def setAll (dict : Dict κ ν) (entries : List (κ × ν)) : Dict κ ν :=
  entries.foldl (fun current entry => current.set entry.1 entry.2) dict

/-- The dictionary a comprehension over these pairs builds: a later pair wins. -/
def ofList (entries : List (κ × ν)) : Dict κ ν := empty.setAll entries

/-- In-place union: the entries of the right operand are written over the left. -/
def merge (dict other : Dict κ ν) : Dict κ ν := dict.setAll other.entries

/-- Remove a key, if it is present. -/
def erase (dict : Dict κ ν) (key : κ) : Dict κ ν :=
  dict.filterKeys (fun tested => tested ≠ key)

/-- A key is present exactly when it has a value. -/
theorem mem_keys_iff (dict : Dict κ ν) (key : κ) :
    key ∈ dict.keys ↔ (dict.get? key).isSome = true := by
  simp [keys, get?, List.find?_isSome]

/-- A written key reads back its value and no other key changes. By induction on
the entries, the first of which is the one written, or stays in front. -/
theorem get?_set (dict : Dict κ ν) (key tested : κ) (value : ν) :
    (dict.set key value).get? tested = if tested = key then some value else dict.get? tested := by
  obtain ⟨entries, distinct⟩ := dict
  simp only [get?, set]
  clear distinct
  induction entries with
  | nil =>
    by_cases same : tested = key
    · simp [setEntry, same]
    · have different : key ≠ tested := fun equal => same equal.symm
      simp [setEntry, same, different]
  | cons entry rest ih =>
    by_cases head : entry.1 = key
    · by_cases same : tested = key
      · simp [setEntry, head, same]
      · have different : key ≠ tested := fun equal => same equal.symm
        simp [setEntry, head, same, different]
    · by_cases found : entry.1 = tested
      · have different : tested ≠ key := found ▸ head
        simp [setEntry, found, different]
      · simp [setEntry, head, found, ih]

/-- The keys after a write are the old ones and the key written. -/
theorem mem_keys_set (dict : Dict κ ν) (key tested : κ) (value : ν) :
    tested ∈ (dict.set key value).keys ↔ tested = key ∨ tested ∈ dict.keys := by
  rw [mem_keys_iff, mem_keys_iff, get?_set]
  by_cases same : tested = key
  · simp [same]
  · simp [same]

/-- Written entries with distinct keys read back, and no other key changes. By
induction on the entries; distinct keys make the order of the writes irrelevant.
-/
theorem get?_setAll (dict : Dict κ ν) (entries : List (κ × ν))
    (distinct : (entries.map Prod.fst).Nodup) (tested : κ) :
    (dict.setAll entries).get? tested =
      ((entries.find? (fun entry => entry.1 = tested)).map Prod.snd).or (dict.get? tested) := by
  induction entries generalizing dict with
  | nil => rfl
  | cons entry rest ih =>
    rw [List.map_cons, List.nodup_cons] at distinct
    have unfolded : dict.setAll (entry :: rest) = (dict.set entry.1 entry.2).setAll rest := rfl
    rw [unfolded, ih _ distinct.2, get?_set]
    by_cases same : entry.1 = tested
    · have absent : rest.find? (fun other => other.1 = tested) = none := by
        rw [List.find?_eq_none]
        intro other member equal
        rw [decide_eq_true_eq] at equal
        exact distinct.1 (List.mem_map.mpr ⟨other, member, equal.trans same.symm⟩)
      simp [absent, same]
    · have different : tested ≠ entry.1 := fun equal => same equal.symm
      simp [same, different]

/-- A merged dictionary reads its right operand first, as `|` does. -/
theorem get?_merge (dict other : Dict κ ν) (tested : κ) :
    (dict.merge other).get? tested = (other.get? tested).or (dict.get? tested) :=
  get?_setAll dict other.entries other.distinct tested

/-- Merging with nothing changes nothing. -/
theorem merge_empty (dict : Dict κ ν) : dict.merge .empty = dict := rfl

/-- The keys after several writes are the old ones and those written. By
induction on the list. -/
theorem mem_keys_setAll (dict : Dict κ ν) (entries : List (κ × ν)) (tested : κ) :
    tested ∈ (dict.setAll entries).keys ↔ tested ∈ dict.keys ∨ tested ∈ entries.map Prod.fst := by
  induction entries generalizing dict with
  | nil => simp [setAll]
  | cons entry rest ih =>
    have unfolded : dict.setAll (entry :: rest) = (dict.set entry.1 entry.2).setAll rest := rfl
    rw [unfolded, ih, mem_keys_set]
    simp only [List.map_cons, List.mem_cons]
    tauto

/-- A dropped key is never written, a kept one is written among the kept ones. -/
theorem filterKeys_set (dict : Dict κ ν) (keep : κ → Bool) (key : κ) (value : ν) :
    (dict.set key value).filterKeys keep =
      if keep key then (dict.filterKeys keep).set key value else dict.filterKeys keep := by
  obtain ⟨entries, distinct⟩ := dict
  apply Dict.ext
  by_cases kept : keep key = true
  · rw [if_pos kept]
    simp only [filterKeys, set]
    clear distinct
    induction entries with
    | nil => simp [setEntry, kept]
    | cons entry rest ih =>
      by_cases same : entry.1 = key
      · subst same
        simp [setEntry, kept]
      · by_cases passes : keep entry.1 = true
        · simp [setEntry, same, passes, ih]
        · simp [setEntry, same, passes, ih]
  · rw [if_neg kept]
    simp only [filterKeys, set]
    clear distinct
    induction entries with
    | nil => simp [setEntry, kept]
    | cons entry rest ih =>
      by_cases same : entry.1 = key
      · subst same
        simp [setEntry, kept]
      · simp [setEntry, same, List.filter_cons, ih]

/-- Writing and then keeping some keys is keeping them first and writing only
the entries that pass. By induction on the list. -/
theorem filterKeys_setAll (dict : Dict κ ν) (keep : κ → Bool) (entries : List (κ × ν)) :
    (dict.setAll entries).filterKeys keep =
      (dict.filterKeys keep).setAll (entries.filter (fun entry => keep entry.1)) := by
  induction entries generalizing dict with
  | nil => rfl
  | cons entry rest ih =>
    have unfolded : dict.setAll (entry :: rest) = (dict.set entry.1 entry.2).setAll rest := rfl
    rw [unfolded, ih, filterKeys_set]
    by_cases kept : keep entry.1 = true
    · rw [if_pos kept, List.filter_cons, if_pos kept]
      rfl
    · rw [if_neg kept, List.filter_cons, if_neg kept]

/-- The kept part of a dictionary is built from the kept pairs. -/
theorem filterKeys_ofList (keep : κ → Bool) (entries : List (κ × ν)) :
    (ofList entries).filterKeys keep = ofList (entries.filter (fun entry => keep entry.1)) :=
  filterKeys_setAll empty keep entries

/-- The keys of a mapping built from a list are the keys listed. -/
theorem mem_keys_ofList (entries : List (κ × ν)) (tested : κ) :
    tested ∈ (ofList entries).keys ↔ tested ∈ entries.map Prod.fst := by
  rw [ofList, mem_keys_setAll]
  simp [keys, empty]

/-- An entry after several writes is an old one or one of the list. -/
theorem mem_setAll (dict : Dict κ ν) (entries : List (κ × ν)) {entry : κ × ν}
    (member : entry ∈ (dict.setAll entries).entries) : entry ∈ dict.entries ∨ entry ∈ entries := by
  induction entries generalizing dict with
  | nil => exact Or.inl member
  | cons first rest ih =>
    rcases ih (dict.set first.1 first.2) member with old | new
    · rcases mem_setEntry _ _ _ _ old with rfl | before
      · exact Or.inr List.mem_cons_self
      · exact Or.inl before
    · exact Or.inr (List.mem_cons_of_mem first new)

/-- An entry of a mapping built from a list is in the list. -/
theorem mem_ofList (entries : List (κ × ν)) {entry : κ × ν}
    (member : entry ∈ (ofList entries).entries) : entry ∈ entries :=
  (mem_setAll empty entries member).resolve_left (by simp [empty])

/-- The keys of a merge are those of both operands. -/
theorem mem_keys_merge (dict other : Dict κ ν) (tested : κ) :
    tested ∈ (dict.merge other).keys ↔ tested ∈ dict.keys ∨ tested ∈ other.keys :=
  mem_keys_setAll dict other.entries tested

/-- A key that passes the test keeps its value. -/
theorem get?_filterKeys (dict : Dict κ ν) (keep : κ → Bool) (key : κ) (kept : keep key = true) :
    (dict.filterKeys keep).get? key = dict.get? key := by
  rw [get?, get?, filterKeys, List.find?_filter]
  congr 2
  funext entry
  by_cases same : entry.1 = key
  · simp [same, kept]
  · simp [same]

/-- Reading a value from a key is the same as holding that entry, since keys are
distinct. -/
theorem get?_eq_some_iff (dict : Dict κ ν) (key : κ) (value : ν) :
    dict.get? key = some value ↔ (key, value) ∈ dict.entries := by
  obtain ⟨entries, distinct⟩ := dict
  simp only [get?]
  induction entries with
  | nil => simp
  | cons entry rest ih =>
    obtain ⟨first, stored⟩ := entry
    simp only [List.map_cons, List.nodup_cons] at distinct
    by_cases same : first = key
    · subst same
      have absent : (first, value) ∉ rest := fun member =>
        distinct.1 (List.mem_map.mpr ⟨_, member, rfl⟩)
      simp [absent, eq_comm]
    · have different : key ≠ first := fun equal => same equal.symm
      simp [same, different, ih distinct.2]

/-- No other entry has the key of an entry, so filtering by that key leaves it
alone. -/
theorem filter_key (dict : Dict κ ν) {entry : κ × ν} (member : entry ∈ dict.entries) :
    dict.entries.filter (fun other => other.1 = entry.1) = [entry] :=
  filter_own_key Prod.fst dict.distinct member

end Dict

end Store
