import InstanceLifecycle.Create.BondNames
import Mathlib.Data.List.DropRight

/-!
# Integers in text

What `int` makes of a text: spaces around it, a sign, and decimal digits of any script with
single underscores between them. Texts of more digits than the interpreter converts are refused
like those that are no integers.
-/

namespace InstanceLifecycle

/-! ## Reading -/

/-- The spaces around an integer. The separators FS to US are none of them, since only characters
beyond ASCII are taken for the spaces they are. -/
def intSpaces : List Nat :=
  [0x9, 0xa, 0xb, 0xc, 0xd, 0x20, 0x85, 0xa0, 0x1680, 0x2000, 0x2001, 0x2002, 0x2003, 0x2004,
    0x2005, 0x2006, 0x2007, 0x2008, 0x2009, 0x200a, 0x2028, 0x2029, 0x202f, 0x205f, 0x3000]

/-- Is it a character that `int` strips? -/
def isIntSpace (c : Char) : Bool := decide (c.toNat ∈ intSpaces)

/-- The text without the spaces around it. -/
def stripSpaces (text : List Char) : List Char :=
  (text.dropWhile isIntSpace).rdropWhile isIntSpace

/-- Digits with single underscores between them; `between` stands behind a digit. -/
def readDigits (between : Bool) : List Char → Option (List Nat)
  | [] => if between then some [] else none
  | c :: rest =>
      if c = '_' then if between then readDigits false rest else none
      else match decimalValue c with
        | some digit => (readDigits true rest).map (digit :: ·)
        | none => none

/-- `sys.int_info.default_max_str_digits`, beyond which `int` and `str` refuse a
number. -/
def maxStrDigits : Nat := 4300

/-- The digits of a number without sign, with single underscores between them.
Too many digits are refused like none. -/
def readNatural (text : List Char) : Option Nat :=
  match readDigits false text with
  | some digits =>
      if digits.length ≤ maxStrDigits then
        some (digits.foldl (fun read digit => 10 * read + digit) 0)
      else none
  | none => none

/-- `int(text)`; `none` is its `ValueError`. One sign may precede the digits. -/
def readInt (text : String) : Option Int :=
  match stripSpaces text.toList with
  | '-' :: rest => (readNatural rest).map fun (number : Nat) => -(number : Int)
  | '+' :: rest => (readNatural rest).map fun (number : Nat) => (number : Int)
  | rest => (readNatural rest).map fun (number : Nat) => (number : Int)

/-! ## The grammar -/

/-- An integer as it may be written: spaces, a sign, a first group of digits and further groups
behind underscores. -/
structure IntLiteral where
  before : List Char
  sign : Option Bool
  first : List Char
  groups : List (List Char)
  after : List Char
  spaces : ∀ c ∈ before ++ after, isIntSpace c = true
  filled : first ≠ [] ∧ ∀ group ∈ groups, group ≠ []
  decimal : ∀ c ∈ first ++ groups.flatten, (decimalValue c).isSome = true
  short : (first ++ groups.flatten).length ≤ maxStrDigits

namespace IntLiteral

variable (literal : IntLiteral)

/-- How a sign is written; `some true` is a minus. -/
def signText : Option Bool → List Char
  | none => []
  | some negative => if negative then ['-'] else ['+']

/-- The digits as they are written, with an underscore before every group but
the first. -/
def digitText : List Char := literal.first ++ literal.groups.flatMap ('_' :: ·)

/-- The literal as it is written, with the spaces around it. -/
def text : List Char :=
  literal.before ++ (signText literal.sign ++ literal.digitText) ++ literal.after

/-- The value of the digits, without the sign. Underscores do not count. -/
def magnitude : Nat :=
  ((literal.first ++ literal.groups.flatten).filterMap decimalValue).foldl
    (fun read digit => 10 * read + digit) 0

/-- The integer that is meant. -/
def value : Int :=
  if literal.sign = some true then -(literal.magnitude : Int) else literal.magnitude

end IntLiteral

/-! ## Digits -/

/-- Digits are read one by one, up to where they end. By induction on them; the
flag says whether an underscore may come next. -/
theorem readDigits_run (digits tail : List Char) (between : Bool)
    (decimal : ∀ c ∈ digits, (decimalValue c).isSome = true) :
    readDigits between (digits ++ tail) =
      (readDigits (between || !digits.isEmpty) tail).map (digits.filterMap decimalValue ++ ·) := by
  induction digits generalizing between with
  | nil => simp
  | cons c rest ih =>
    obtain ⟨digit, value⟩ := Option.isSome_iff_exists.mp (decimal c List.mem_cons_self)
    have other : c ≠ '_' := by
      rintro rfl
      have none : decimalValue '_' = none := by decide
      rw [none] at value
      cases value
    have onward := ih true fun later member => decimal later (List.mem_cons_of_mem c member)
    rw [List.cons_append, readDigits, if_neg other]
    simp only [value, onward, Option.map_map, List.filterMap_cons, List.isEmpty_cons,
      Bool.not_false, Bool.or_true, Bool.true_or]
    rfl

/-- What the reader accepts is a group of digits, empty only behind another digit, and further
groups behind underscores. -/
theorem readDigits_iff (between : Bool) (text : List Char) (digits : List Nat) :
    readDigits between text = some digits ↔ ∃ (first : List Char) (groups : List (List Char)),
      text = first ++ groups.flatMap ('_' :: ·) ∧ (between = false → first ≠ []) ∧
      (∀ group ∈ groups, group ≠ []) ∧
      (∀ c ∈ first ++ groups.flatten, (decimalValue c).isSome = true) ∧
      digits = (first ++ groups.flatten).filterMap decimalValue := by
  constructor
  · intro accepted
    induction text generalizing between digits with
    | nil =>
      cases between with
      | false => cases accepted
      | true =>
        obtain rfl := Option.some.inj accepted
        exact ⟨[], [], rfl, by simp, by simp, by simp, rfl⟩
    | cons c rest ih =>
      rw [readDigits] at accepted
      by_cases under : c = '_'
      · subst under
        rw [if_pos rfl] at accepted
        cases between with
        | false => cases accepted
        | true =>
          obtain ⟨first, groups, rfl, filled, more, decimal, rfl⟩ := ih false digits accepted
          refine ⟨[], first :: groups, by simp, by simp, ?_, by simpa using decimal, by simp⟩
          intro group member
          rcases List.mem_cons.mp member with rfl | member
          · exact filled rfl
          · exact more group member
      · rw [if_neg under] at accepted
        cases value : decimalValue c with
        | none => simp [value] at accepted
        | some digit =>
          simp only [value, Option.map_eq_some_iff] at accepted
          obtain ⟨later, accepted, rfl⟩ := accepted
          obtain ⟨first, groups, rfl, -, more, decimal, rfl⟩ := ih true later accepted
          refine ⟨c :: first, groups, rfl, fun _ => List.cons_ne_nil c first, more, ?_, ?_⟩
          · intro other member
            rcases List.mem_cons.mp member with rfl | member
            · simp [value]
            · exact decimal other member
          · simp [value]
  · rintro ⟨first, groups, rfl, filled, more, decimal, rfl⟩
    induction groups generalizing between first with
    | nil =>
      have read := readDigits_run first [] between fun c member => decimal c (by simp [member])
      rw [List.flatMap_nil, read]
      cases between with
      | true => simp [readDigits]
      | false => simp [readDigits, filled rfl]
    | cons group rest ih =>
      have read := readDigits_run first ('_' :: (group ++ rest.flatMap ('_' :: ·))) between
        fun c member => decimal c (by simp [member])
      have behind : (between || !first.isEmpty) = true := by
        cases between with
        | true => rfl
        | false => simp [filled rfl]
      have onward := ih false group (fun _ => more group List.mem_cons_self)
        (fun later member => more later (List.mem_cons_of_mem group member))
        fun c member => decimal c (List.mem_append_right first (by simpa using member))
      rw [List.flatMap_cons, List.cons_append, read, behind, readDigits, if_pos rfl, if_pos rfl,
        onward]
      simp

/-- Each decimal digit has one value. -/
theorem length_decimals (text : List Char)
    (decimal : ∀ c ∈ text, (decimalValue c).isSome = true) :
    (text.filterMap decimalValue).length = text.length := by
  induction text with
  | nil => rfl
  | cons c rest ih =>
    obtain ⟨digit, value⟩ := Option.isSome_iff_exists.mp (decimal c List.mem_cons_self)
    have shorter := ih fun later member => decimal later (List.mem_cons_of_mem c member)
    simp [value, shorter]

/-- A natural number is read from digits that are few enough, by their value. -/
theorem readNatural_iff (text : List Char) (number : Nat) :
    readNatural text = some number ↔ ∃ digits, readDigits false text = some digits ∧
      digits.length ≤ maxStrDigits ∧
      digits.foldl (fun read digit => 10 * read + digit) 0 = number := by
  rw [readNatural]
  cases readDigits false text with
  | none => simp
  | some digits =>
    by_cases short : digits.length ≤ maxStrDigits
    · simp [short]
    · simp [short]

/-! ## Spaces and signs -/

/-- A space is no digit. The two finite tables are disjoint, which is decided. -/
theorem space_not_decimal {c : Char} (space : isIntSpace c = true) : decimalValue c = none := by
  have member : c.toNat ∈ intSpaces := of_decide_eq_true space
  have apart : ∀ code ∈ intSpaces, decimalZeros.find? (fun start =>
      decide (start ≤ code) && decide (code < start + 10)) = none := by decide
  rw [decimalValue, apart c.toNat member]
  rfl

/-- And a digit is no space. -/
theorem decimal_not_space {c : Char} (decimal : (decimalValue c).isSome = true) :
    isIntSpace c = false := by
  by_contra space
  rw [space_not_decimal (by simpa using space)] at decimal
  cases decimal

/-- Stripping takes the spaces off a text that neither begins nor ends with one. -/
theorem stripSpaces_surrounded {before core after : List Char} {first last : Char}
    (spaces : ∀ c ∈ before ++ after, isIntSpace c = true) (head : core.head? = some first)
    (tail : core.getLast? = some last) (headOther : isIntSpace first = false)
    (tailOther : isIntSpace last = false) : stripSpaces (before ++ core ++ after) = core := by
  obtain ⟨rest, rfl⟩ : ∃ rest, core = first :: rest := by
    cases core with
    | nil => cases head
    | cons c rest => exact ⟨rest, by rw [Option.some.inj head]⟩
  have front : (before ++ (first :: rest) ++ after).dropWhile isIntSpace =
      first :: rest ++ after := by
    rw [List.append_assoc, List.dropWhile_append_of_pos fun c member =>
      spaces c (List.mem_append_left after member), List.cons_append, List.dropWhile_cons_of_neg]
    simp [headOther]
  have back : (after.reverse ++ (first :: rest).reverse).dropWhile isIntSpace =
      (first :: rest).reverse := by
    rw [List.dropWhile_append_of_pos fun c member =>
      spaces c (List.mem_append_right before (List.mem_reverse.mp member))]
    rw [← List.head?_reverse] at tail
    cases reversed : (first :: rest).reverse with
    | nil => rfl
    | cons c others =>
      rw [reversed] at tail
      rw [Option.some.inj tail, List.dropWhile_cons_of_neg]
      simp [tailOther]
  rw [stripSpaces, front, List.rdropWhile, List.reverse_append, back, List.reverse_reverse]

/-- Stripping takes off spaces, and nothing else. -/
theorem stripSpaces_spaces (text : List Char) : ∃ before after,
    text = before ++ stripSpaces text ++ after ∧ ∀ c ∈ before ++ after, isIntSpace c = true := by
  refine ⟨text.takeWhile isIntSpace, (text.dropWhile isIntSpace).rtakeWhile isIntSpace, ?_, ?_⟩
  · rw [stripSpaces, List.append_assoc, List.rdropWhile_append_rtakeWhile,
      List.takeWhile_append_dropWhile]
  · intro c member
    rcases List.mem_append.mp member with front | back
    · exact List.mem_takeWhile_imp front
    · exact List.mem_rtakeWhile_imp back

namespace IntLiteral

variable (literal : IntLiteral)

/-- The digits of a literal are read as its magnitude. -/
theorem readNatural_digitText : readNatural literal.digitText = some literal.magnitude := by
  rw [readNatural_iff]
  refine ⟨_, (readDigits_iff false _ _).mpr ⟨literal.first, literal.groups, rfl,
    fun _ => literal.filled.1, literal.filled.2, literal.decimal, rfl⟩, ?_, rfl⟩
  exact Nat.le_trans (List.length_filterMap_le _ _) literal.short

/-- The text of the digits ends in a digit, so that stripping stops there. It is
the last digit of the last group, or of the first one when no underscore
follows. -/
theorem digitText_last : ∃ c, literal.digitText.getLast? = some c ∧ (decimalValue c).isSome := by
  rcases List.eq_nil_or_concat literal.groups with none | ⟨others, group, more⟩
  · have last := List.getLast?_eq_some_getLast literal.filled.1
    refine ⟨_, ?_, literal.decimal _ (List.mem_append_left _ (List.getLast_mem literal.filled.1))⟩
    have alone : literal.digitText = literal.first := by simp [digitText, none]
    rw [alone, last]
  · have member : group ∈ literal.groups := by simp [more]
    have filled := literal.filled.2 group member
    refine ⟨group.getLast filled, ?_, literal.decimal _ (List.mem_append_right _
      (List.mem_flatten.mpr ⟨group, member, List.getLast_mem filled⟩))⟩
    have cut : literal.digitText =
        (literal.first ++ others.flatMap ('_' :: ·) ++ ['_']) ++ group := by
      simp [digitText, more]
    rw [cut, List.getLast?_append_of_ne_nil _ filled, List.getLast?_eq_some_getLast filled]

/-- An integer begins with its sign or a digit, and stripping stops there too. -/
theorem core_head : ∃ c, (signText literal.sign ++ literal.digitText).head? = some c ∧
    isIntSpace c = false := by
  obtain ⟨c, rest, shape⟩ := List.exists_cons_of_ne_nil literal.filled.1
  have decimal := literal.decimal c (by simp [shape])
  rw [digitText, shape]
  cases literal.sign with
  | none => exact ⟨c, rfl, decimal_not_space decimal⟩
  | some negative =>
    cases negative with
    | false => exact ⟨'+', rfl, by decide⟩
    | true => exact ⟨'-', rfl, by decide⟩

/-- Stripping a literal leaves its sign and its digits. -/
theorem stripSpaces_text :
    stripSpaces literal.text = signText literal.sign ++ literal.digitText := by
  obtain ⟨first, head, headOther⟩ := literal.core_head
  obtain ⟨last, tail, decimal⟩ := literal.digitText_last
  have filled : literal.digitText ≠ [] := by
    intro empty
    simp [empty] at tail
  refine stripSpaces_surrounded literal.spaces head ?_ headOther (decimal_not_space decimal)
  rw [List.getLast?_append_of_ne_nil _ filled, tail]

/-- Digits begin with no sign, so they are not taken for one. -/
theorem digitText_head : ∃ c rest, literal.digitText = c :: rest ∧ c ≠ '-' ∧ c ≠ '+' := by
  obtain ⟨c, rest, shape⟩ := List.exists_cons_of_ne_nil literal.filled.1
  have decimal := literal.decimal c (by simp [shape])
  refine ⟨c, rest ++ literal.groups.flatMap ('_' :: ·), by rw [digitText, shape]; rfl, ?_, ?_⟩
  · rintro rfl
    exact absurd decimal (by decide)
  · rintro rfl
    exact absurd decimal (by decide)

end IntLiteral

/-- What does not begin with a sign is read as a natural number. -/
theorem readInt_unsigned {text : String} {c : Char} {rest : List Char}
    (stripped : stripSpaces text.toList = c :: rest) (minus : c ≠ '-') (plus : c ≠ '+') :
    readInt text = (readNatural (c :: rest)).map fun (number : Nat) => (number : Int) := by
  rw [readInt, stripped]
  split
  · rename_i same
    exact absurd (List.cons.inj same).1 minus
  · rename_i same
    exact absurd (List.cons.inj same).1 plus
  · rfl

/-- An accepted text is a sign and a natural number between its spaces. -/
theorem readInt_signed {text : String} {number : Int} (accepted : readInt text = some number) :
    ∃ sign rest, stripSpaces text.toList = IntLiteral.signText sign ++ rest ∧
      ∃ natural : Nat, readNatural rest = some natural ∧
        (if sign = some true then -(natural : Int) else natural) = number := by
  rw [readInt] at accepted
  split at accepted
  · rename_i rest stripped
    obtain ⟨natural, read, rfl⟩ := Option.map_eq_some_iff.mp accepted
    exact ⟨some true, rest, stripped, natural, read, rfl⟩
  · rename_i rest stripped
    obtain ⟨natural, read, rfl⟩ := Option.map_eq_some_iff.mp accepted
    exact ⟨some false, rest, stripped, natural, read, rfl⟩
  · obtain ⟨natural, read, rfl⟩ := Option.map_eq_some_iff.mp accepted
    exact ⟨none, _, rfl, natural, read, rfl⟩

/-- `int` accepts exactly the integers as they may be written, and gives their value. -/
theorem readInt_iff (text : String) (number : Int) :
    readInt text = some number ↔
      ∃ literal : IntLiteral, literal.text = text.toList ∧ literal.value = number := by
  constructor
  · intro accepted
    obtain ⟨before, after, whole, spaces⟩ := stripSpaces_spaces text.toList
    obtain ⟨sign, rest, core, magnitude⟩ := readInt_signed accepted
    obtain ⟨natural, read, rfl⟩ := magnitude
    obtain ⟨digits, reading, short, rfl⟩ := (readNatural_iff rest natural).mp read
    obtain ⟨first, groups, rfl, filled, more, decimal, rfl⟩ :=
      (readDigits_iff false rest digits).mp reading
    rw [length_decimals _ decimal] at short
    exact ⟨⟨before, sign, first, groups, after, spaces, ⟨filled rfl, more⟩, decimal, short⟩,
      by rw [whole, core]; rfl, rfl⟩
  · rintro ⟨literal, written, rfl⟩
    have stripped := literal.stripSpaces_text
    rw [written] at stripped
    cases sign : literal.sign with
    | none =>
      obtain ⟨c, rest, shape, minus, plus⟩ := literal.digitText_head
      have read := literal.readNatural_digitText
      rw [sign, shape] at stripped
      rw [shape] at read
      rw [readInt_unsigned stripped minus plus, read]
      simp [IntLiteral.value, sign]
    | some negative =>
      rw [sign] at stripped
      cases negative with
      | false =>
        change stripSpaces text.toList = '+' :: literal.digitText at stripped
        rw [readInt, stripped]
        simp [IntLiteral.value, sign, literal.readNatural_digitText]
      | true =>
        change stripSpaces text.toList = '-' :: literal.digitText at stripped
        rw [readInt, stripped]
        simp [IntLiteral.value, sign, literal.readNatural_digitText]

/-! ## Printed integers -/

/-- A decimal digit is below ten. -/
theorem decimalValue_lt {c : Char} {digit : Nat} (value : decimalValue c = some digit) :
    digit < 10 := by
  obtain ⟨start, found, rfl⟩ := Option.map_eq_some_iff.mp value
  have within := List.find?_some found
  simp only [Bool.and_eq_true, decide_eq_true_eq] at within
  omega

/-- By induction on the digits, after a number that was read before them. -/
theorem decimals_lt (text : List Char) (read : Nat) :
    (text.filterMap decimalValue).foldl (fun read digit => 10 * read + digit) read <
      (read + 1) * 10 ^ (text.filterMap decimalValue).length := by
  induction text generalizing read with
  | nil => simp
  | cons c rest ih =>
    cases value : decimalValue c with
    | none =>
      rw [List.filterMap_cons_none value]
      exact ih read
    | some digit =>
      have small := decimalValue_lt value
      rw [List.filterMap_cons_some value, List.foldl_cons, List.length_cons]
      calc _ < (10 * read + digit + 1) * 10 ^ (rest.filterMap decimalValue).length := ih _
        _ ≤ (read + 1) * 10 * 10 ^ (rest.filterMap decimalValue).length :=
          Nat.mul_le_mul_right _ (by omega)
        _ = (read + 1) * 10 ^ ((rest.filterMap decimalValue).length + 1) := by
          rw [Nat.pow_succ, Nat.mul_assoc, Nat.mul_comm 10]

/-- What is read has few enough digits to be printed, since at most that many
were read. -/
theorem readInt_natAbs {text : String} {number : Int} (given : readInt text = some number) :
    number.natAbs < 10 ^ maxStrDigits := by
  obtain ⟨literal, -, rfl⟩ := (readInt_iff text number).mp given
  have below := decimals_lt (literal.first ++ literal.groups.flatten) 0
  rw [length_decimals _ literal.decimal, Nat.zero_add, Nat.one_mul] at below
  have size : literal.value.natAbs = literal.magnitude := by
    rw [IntLiteral.value]
    split
    · exact Int.natAbs_neg _
    · rfl
  rw [size]
  exact Nat.lt_of_lt_of_le below (Nat.pow_le_pow_right (by decide) literal.short)

/-- The decimal digits of a number give its value. By induction on the digits,
with the value so far generalised. -/
theorem decimals_value (digits : List Char) (all : ∀ c ∈ digits, c.isDigit = true) (read : Nat) :
    (digits.filterMap decimalValue).foldl (fun read digit => 10 * read + digit) read =
      Nat.ofDigitChars 10 digits read := by
  induction digits generalizing read with
  | nil => rfl
  | cons c rest ih =>
    have value := decimalValue_digit c (all c List.mem_cons_self)
    have onward := ih (fun later member => all later (List.mem_cons_of_mem c member))
    rw [List.filterMap_cons_some value, List.foldl_cons, onward, Nat.ofDigitChars_cons]

/-- A natural number as it is printed, as a literal without spaces and groups. -/
def printedLiteral (sign : Option Bool) (number : Nat) (short : number < 10 ^ maxStrDigits) :
    IntLiteral where
  before := []
  sign := sign
  first := Nat.toDigits 10 number
  groups := []
  after := []
  spaces := by simp
  filled := ⟨Nat.toDigits_ne_nil, by simp⟩
  decimal := by
    intro c member
    have listed : c ∈ Nat.toDigits 10 number := by simpa using member
    have digit := Nat.isDigit_of_mem_toDigits (by decide) (by decide) listed
    simp [decimalValue_digit c digit]
  short := by
    have bounded := (Nat.length_toDigits_le_iff (by decide) (by decide)).mpr short
    simpa using bounded

/-- The magnitude of a printed number is the number. -/
theorem printedLiteral_magnitude (sign : Option Bool) (number : Nat)
    (short : number < 10 ^ maxStrDigits) :
    (printedLiteral sign number short).magnitude = number := by
  have all : ∀ c ∈ Nat.toDigits 10 number, c.isDigit = true := by
    intro c member
    exact Nat.isDigit_of_mem_toDigits (by decide) (by decide) member
  have value := decimals_value (Nat.toDigits 10 number) all 0
  rw [Nat.ofDigitChars_ten_toDigits] at value
  simpa [IntLiteral.magnitude, printedLiteral] using value

/-- An integer that is short enough reads back as it was printed. Its text is
written as a literal without blanks and underscores, with a sign for the
negative ones. -/
theorem readInt_toString (number : Int) (short : number.natAbs < 10 ^ maxStrDigits) :
    readInt (toString number) = some number := by
  rw [readInt_iff]
  cases number with
  | ofNat number =>
    refine ⟨printedLiteral none number short, ?_, ?_⟩
    · change _ = (toString number).toList
      simp [IntLiteral.text, IntLiteral.signText, IntLiteral.digitText, printedLiteral]
    · rw [IntLiteral.value, printedLiteral_magnitude]
      simp [printedLiteral]
  | negSucc number =>
    refine ⟨printedLiteral (some true) (number + 1) short, ?_, ?_⟩
    · have printed : (toString (number + 1)).toList = Nat.toDigits 10 (number + 1) :=
        Nat.toList_repr
      change _ = ("-" ++ toString (number + 1)).toList
      rw [String.toList_append, printed]
      simp [IntLiteral.text, IntLiteral.signText, IntLiteral.digitText, printedLiteral]
    · rw [IntLiteral.value, printedLiteral_magnitude]
      simp [printedLiteral]
      omega

end InstanceLifecycle
