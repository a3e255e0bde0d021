import InstanceLifecycle.Handler.Utils

/-!
# Bond names

A number printed after `bond` reads back, so the lowest free number gives a name
that no existing name equals. Names of different order numbers differ.
-/

namespace InstanceLifecycle

/-- An ASCII digit has the decimal value it is written with, because the ASCII
digits are the first run of ten in the table. -/
theorem decimalValue_digit (c : Char) (digit : c.isDigit = true) :
    decimalValue c = some (c.toNat - '0'.toNat) := by
  have low : 48 ≤ c.toNat := by
    simp only [Char.isDigit, Bool.and_eq_true, decide_eq_true_eq] at digit
    exact digit.1
  have high : c.toNat < 58 := by
    simp only [Char.isDigit, Bool.and_eq_true, decide_eq_true_eq] at digit
    exact Nat.lt_succ_of_le digit.2
  have first : decimalZeros.find? (fun start =>
      decide (start ≤ c.toNat) && decide (c.toNat < start + 10)) = some 48 := by
    rw [decimalZeros, List.find?_cons_of_pos]
    simp [low, high]
  rw [decimalValue, first]
  rfl

/-- Reading decimal digits accumulates their value. -/
theorem readDecimals_digits (digits : List Char) (all : ∀ c ∈ digits, c.isDigit = true)
    (read : Nat) : readDecimals read digits = some (Nat.ofDigitChars 10 digits read) := by
  induction digits generalizing read with
  | nil => rfl
  | cons c rest ih =>
    have value := decimalValue_digit c (all c List.mem_cons_self)
    rw [readDecimals, value, Nat.ofDigitChars_cons]
    exact ih (fun other member => all other (List.mem_cons_of_mem c member)) _

/-- The name printed for a number is read back as that number. Its digits are
ASCII digits, so the reader takes all of them and nothing is left over. -/
theorem bondNumber_bond (number : Nat) : bondNumber ("bond" ++ toString number) = some number := by
  have printed : (toString number).toList = Nat.toDigits 10 number := Nat.toList_repr
  have all : ∀ c ∈ Nat.toDigits 10 number, c.isDigit = true := by
    intro c member
    exact Nat.isDigit_of_mem_toDigits (by decide) (by decide) member
  obtain ⟨first, rest, shape⟩ := List.exists_cons_of_ne_nil (Nat.toDigits_ne_nil (n := number)
    (b := 10))
  have whole : ("bond" ++ toString number).toList = 'b' :: 'o' :: 'n' :: 'd' :: first :: rest := by
    rw [String.toList_append, printed, shape]
    rfl
  have read := readDecimals_digits (Nat.toDigits 10 number) all 0
  rw [Nat.ofDigitChars_ten_toDigits, shape, readDecimals,
    decimalValue_digit first (all first (by simp [shape]))] at read
  simp only [bondNumber, whole, decimalValue_digit first (all first (by simp [shape]))]
  simpa using read

/-- No existing name is the next one. -/
theorem nextBondName_fresh (names : List (Option String)) : some (nextBondName names) ∉ names := by
  intro member
  have parsed : lowestFree (takenNumbers names) ∈ takenNumbers names := by
    refine List.mem_filterMap.mpr ⟨some (nextBondName names), member, ?_⟩
    exact bondNumber_bond _
  exact (lowestFree_least (takenNumbers names)).1 parsed

/-- Two natural numbers that print alike are equal, since their digits are. -/
theorem toString_nat_injective {left right : Nat} (same : toString left = toString right) :
    left = right := by
  have digits : Nat.toDigits 10 left = Nat.toDigits 10 right := by
    rw [← Nat.toList_repr, ← Nat.toList_repr]
    exact congrArg String.toList same
  rw [← Nat.ofDigitChars_ten_toDigits (n := left), digits, Nat.ofDigitChars_ten_toDigits]

/-- A minus sign is no digit, so the sign of a printed integer reads back. -/
theorem toString_minus (left right : Nat) : "-" ++ toString left ≠ toString right := by
  intro same
  have listed : ("-" ++ toString left).toList = Nat.toDigits 10 right := by
    rw [same]
    exact Nat.toList_repr
  have minus : '-' ∈ Nat.toDigits 10 right := by
    rw [← listed, String.toList_append]
    simp
  have digit := Nat.isDigit_of_mem_toDigits (by decide) (by decide) minus
  exact absurd digit (by decide)

/-- Two integers that print alike are equal; a sign tells the negative ones from
the others. -/
theorem toString_int_injective {left right : Int} (same : toString left = toString right) :
    left = right := by
  cases left with
  | ofNat left =>
    cases right with
    | ofNat right => exact congrArg Int.ofNat (toString_nat_injective same)
    | negSucc right => exact absurd same.symm (toString_minus (right + 1) left)
  | negSucc left =>
    cases right with
    | ofNat right => exact absurd same (toString_minus (left + 1) right)
    | negSucc right =>
      have digits : toString (left + 1) = toString (right + 1) :=
        (String.append_right_inj "-").mp same
      have next := toString_nat_injective digits
      exact congrArg Int.negSucc (by omega)

/-- The name of a real card determines its order. -/
theorem orderName_injective {left right : Int}
    (same : "bond" ++ toString (left - 1) = "bond" ++ toString (right - 1)) : left = right := by
  have numbers := toString_int_injective ((String.append_right_inj "bond").mp same)
  omega

end InstanceLifecycle
