import InstanceLifecycle.Create.Cards
import Mathlib.Data.List.Perm.Subperm

/-!
# The lowest free bond name

The search ends at the least number that no existing name reads as, so its result is new.
Each call that is answered takes a number from the rest, and the calls of one create, one
for each placeholder, are given pairwise different names.
-/

namespace InstanceLifecycle

open InstanceHandler

/-! ## Names that match -/

/-- The name matches `^bond(\d+)$` and its group reads as this number. -/
def BondMatch (name : String) (number : Nat) : Prop :=
  ∃ digits values, digits ≠ [] ∧
    List.Forall₂ (fun c value => decimalValue c = some value) digits values ∧
    (name.toList = "bond".toList ++ digits ∨ name.toList = "bond".toList ++ digits ++ ['\n']) ∧
    number = values.foldl (fun read value => 10 * read + value) 0

/-- The characters are digits, and perhaps a newline, and read on to this number. -/
def ReadsOn (read : Nat) (chars : List Char) (number : Nat) : Prop :=
  ∃ digits values, List.Forall₂ (fun c value => decimalValue c = some value) digits values ∧
    (chars = digits ∨ chars = digits ++ ['\n']) ∧
    number = values.foldl (fun read value => 10 * read + value) read

section Reading

variable {c : Char} {rest digits : List Char} {read number : Nat}

/-- A first digit is the first of the digits. -/
theorem digits_cons {first : Char}
    (shape : c :: rest = first :: digits ∨ c :: rest = first :: digits ++ ['\n']) :
    c = first ∧ (rest = digits ∨ rest = digits ++ ['\n']) := by
  rcases shape with shape | shape
  · exact ⟨(List.cons.inj shape).1, Or.inl (List.cons.inj shape).2⟩
  · exact ⟨(List.cons.inj shape).1, Or.inr (List.cons.inj shape).2⟩

/-- At the end of the text the number read by now is the result. -/
theorem readsOn_nil : ReadsOn read [] number ↔ number = read := by
  constructor
  · rintro ⟨digits, values, all, rfl | newline, rfl⟩
    · cases all
      rfl
    · simp at newline
  · rintro rfl
    exact ⟨[], [], .nil, Or.inl rfl, rfl⟩

/-- A digit multiplies the number read by now by ten and adds its value. -/
theorem readsOn_digit {digit : Nat} (known : decimalValue c = some digit) :
    ReadsOn read (c :: rest) number ↔ ReadsOn (10 * read + digit) rest number := by
  constructor
  · rintro ⟨digits, values, all, shape, rfl⟩
    cases digits with
    | nil =>
      have newline : c = '\n' := by
        rcases shape with absent | last
        · cases absent
        · exact (List.cons.inj last).1
      rw [newline] at known
      cases known
    | cons first digits =>
      obtain ⟨rfl, tail⟩ := digits_cons shape
      obtain ⟨value, values, own, later, rfl⟩ := List.forall₂_cons_left_iff.mp all
      cases known.symm.trans own
      exact ⟨digits, values, later, tail, rfl⟩
  · rintro ⟨digits, values, all, shape, rfl⟩
    refine ⟨c :: digits, digit :: values, .cons known all, ?_, rfl⟩
    rcases shape with rfl | rfl
    · exact Or.inl rfl
    · exact Or.inr rfl

/-- A character that is no digit ends the number, and can only be the newline at
the end of the text. -/
theorem readsOn_end (unknown : decimalValue c = none) :
    ReadsOn read (c :: rest) number ↔ (c = '\n' ∧ rest = []) ∧ number = read := by
  constructor
  · rintro ⟨digits, values, all, shape, rfl⟩
    cases digits with
    | nil =>
      cases all
      rcases shape with absent | last
      · cases absent
      · exact ⟨List.cons.inj last, rfl⟩
    | cons first digits =>
      obtain ⟨rfl, -⟩ := digits_cons shape
      obtain ⟨value, values, own, -⟩ := List.forall₂_cons_left_iff.mp all
      cases unknown.symm.trans own
  · rintro ⟨⟨rfl, rfl⟩, rfl⟩
    exact ⟨[], [], .nil, Or.inr rfl, rfl⟩

end Reading

/-- The loop over the digits reads what the pattern says. By induction on the
characters, with any number read before them: a digit goes on, and anything else
has to be the end. -/
theorem readDecimals_iff {chars : List Char} {read number : Nat} :
    readDecimals read chars = some number ↔ ReadsOn read chars number := by
  induction chars generalizing read with
  | nil =>
    rw [readDecimals, readsOn_nil, Option.some_inj]
    exact eq_comm
  | cons c rest ih =>
    rw [readDecimals]
    cases known : decimalValue c with
    | some digit =>
      rw [readsOn_digit known]
      exact ih
    | none =>
      simp only [readsOn_end known, Option.ite_none_right_eq_some, Bool.and_eq_true,
        decide_eq_true_eq, List.isEmpty_iff, Option.some.injEq]
      exact and_congr_right fun _ => eq_comm

/-- The code's reading agrees with the pattern: `bond`, then at least one digit,
then perhaps a line break at the end. -/
theorem bondNumber_iff {name : String} {number : Nat} :
    bondNumber name = some number ↔ BondMatch name number := by
  have spelled : "bond".toList = ['b', 'o', 'n', 'd'] := rfl
  constructor
  · intro reads
    rw [bondNumber] at reads
    split at reads
    · rename_i c rest shape
      cases known : decimalValue c with
      | none =>
        rw [known] at reads
        cases reads
      | some digit =>
        rw [known] at reads
        obtain ⟨digits, values, all, tail, rfl⟩ := readDecimals_iff.mp reads
        refine ⟨c :: digits, digit :: values, by simp, .cons known all, ?_, by simp⟩
        rw [shape, spelled]
        rcases tail with rfl | rfl
        · exact Or.inl rfl
        · exact Or.inr rfl
    · cases reads
  · rintro ⟨digits, values, filled, all, shape, rfl⟩
    cases digits with
    | nil => exact absurd rfl filled
    | cons c digits =>
      obtain ⟨value, values, own, later, rfl⟩ := List.forall₂_cons_left_iff.mp all
      rw [spelled] at shape
      rcases shape with shape | shape
      · simp only [bondNumber, shape, List.cons_append, List.nil_append, own]
        exact readDecimals_iff.mpr ⟨digits, values, later, Or.inl rfl, by simp⟩
      · simp only [bondNumber, shape, List.cons_append, List.nil_append, own]
        exact readDecimals_iff.mpr ⟨digits, values, later, Or.inr rfl, by simp⟩

/-- The numbers found taken are those some name reads as. -/
theorem mem_takenNumbers {names : List (Option String)} {number : Nat} :
    number ∈ takenNumbers names ↔ ∃ name ∈ names, BondMatch (name.getD "") number := by
  simp only [takenNumbers, List.mem_filterMap, bondNumber_iff]

/-! ## The search -/

/-- The loop ends at the first number not taken, after one test more than it skips. -/
theorem firstFree_reaches {taken : List Nat} {free : Nat} (isFree : free ∉ taken)
    (below : ∀ smaller, smaller < free → smaller ∈ taken) (fuel number : Nat)
    (started : number ≤ free) (enough : free < number + fuel) :
    firstFree taken fuel number = some free := by
  induction fuel generalizing number with
  | zero => omega
  | succ fuel ih =>
    rw [firstFree]
    by_cases reached : number = free
    · rw [reached, if_neg isFree]
    · rw [if_pos (below number (by omega))]
      exact ih (number + 1) (by omega) (by omega)

/-- The numbers below the lowest free one are all among the taken ones. -/
theorem lowestFree_bound (taken : List Nat) : lowestFree taken ≤ taken.length := by
  have within : List.range (lowestFree taken) ⊆ taken := by
    intro smaller member
    exact (lowestFree_least taken).2 smaller (List.mem_range.mp member)
  have fewer := (List.subperm_of_subset List.nodup_range within).length_le
  rwa [List.length_range] at fewer

/-! ## Repeated calls -/

/-- The results of so many calls, each added to the names before the next one. -/
def nextBondNames (names : List (Option String)) : Nat → List String
  | 0 => []
  | count + 1 =>
      nextBondName names :: nextBondNames (names ++ [some (nextBondName names)]) count

/-- Asking a number of times gives that many names. -/
theorem nextBondNames_length (names : List (Option String)) (count : Nat) :
    (nextBondNames names count).length = count := by
  induction count generalizing names with
  | zero => rfl
  | succ count ih => rw [nextBondNames, List.length_cons, ih]

/-- By induction on the calls: a later result is not among the names before it. -/
theorem nextBondNames_new (names : List (Option String)) (count : Nat) :
    (nextBondNames names count).Nodup ∧ ∀ name ∈ nextBondNames names count, some name ∉ names := by
  induction count generalizing names with
  | zero => simp [nextBondNames]
  | succ count ih =>
    obtain ⟨distinct, new⟩ := ih (names ++ [some (nextBondName names)])
    rw [nextBondNames]
    constructor
    · refine List.nodup_cons.mpr ⟨?_, distinct⟩
      intro again
      exact new _ again (List.mem_append_right _ List.mem_cons_self)
    · intro name member
      rcases List.mem_cons.mp member with rfl | later
      · exact nextBondName_fresh names
      · exact fun old => new name later (List.mem_append_left _ old)

/-- The placeholders of a create are named by such calls, after the real cards. -/
theorem cardNames_placeholders (takenNames : List String) (cards : List HostNetwork) :
    ((cards.zip (cardNames takenNames cards)).filter (fun named => named.1.placeholder)).map
        Prod.snd =
      nextBondNames (takenNames.map some) (cards.countP (fun card => card.placeholder)) := by
  induction cards generalizing takenNames with
  | nil => rfl
  | cons card rest ih =>
    rw [cardNames, List.zip_cons_cons, List.filter_cons, List.countP_cons]
    by_cases placeholder : card.placeholder = true
    · rw [if_pos placeholder, if_pos placeholder, List.map_cons, ih,
        takeName_placeholder takenNames placeholder, List.map_append, nextBondNames, endpointName,
        if_pos placeholder]
      rfl
    · rw [if_neg placeholder, if_neg placeholder, ih, takeName_real takenNames placeholder]
      rfl

/-- The number is the lowest free one: the search ends there, and so do repeated searches,
with new names. -/
structure LowestFree (names : List (Option String)) (number : Nat) : Prop where
  printed : nextBondName names = "bond" ++ toString number
  ends : ∀ fuel, number < fuel → firstFree (takenNumbers names) fuel 0 = some number
  free : ∀ name ∈ names, ¬ BondMatch (name.getD "") number
  taken : ∀ smaller, smaller < number → ∃ name ∈ names, BondMatch (name.getD "") smaller
  new : some (nextBondName names) ∉ names
  bounded : number ≤ names.length
  repeated : ∀ count, (nextBondNames names count).length = count ∧
    (nextBondNames names count).Nodup ∧ ∀ name ∈ nextBondNames names count, some name ∉ names

/-- For every list of names the next one has the lowest free number. -/
theorem next_bond_name_lowest (names : List (Option String)) :
    ∃ number, LowestFree names number := by
  obtain ⟨isFree, below⟩ := lowestFree_least (takenNumbers names)
  refine ⟨lowestFree (takenNumbers names), ?_⟩
  constructor
  · rfl
  · intro fuel enough
    exact firstFree_reaches isFree below fuel 0 (Nat.zero_le _) (by omega)
  · intro name member reads
    exact isFree (mem_takenNumbers.mpr ⟨name, member, reads⟩)
  · exact fun smaller less => mem_takenNumbers.mp (below smaller less)
  · exact nextBondName_fresh names
  · exact le_trans (lowestFree_bound _) (List.length_filterMap_le _ _)
  · exact fun count => ⟨nextBondNames_length names count, nextBondNames_new names count⟩

/-- Leading zeros and a name twice; the names in between are given next. -/
example : nextBondNames [some "bond0", none, some "bond02", some "eth0", some "bond0"] 3 =
    ["bond1", "bond3", "bond4"] := by decide +kernel

end InstanceLifecycle
