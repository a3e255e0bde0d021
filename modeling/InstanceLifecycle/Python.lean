/-!
# Python values, exceptions and string operations

JSON values without fractions: no arithmetic is done on a number a message
carries other than an order number, which is an integer. A field of a message is
a `Slot`, because `d[key]`, `d.get(key)` and `key in d` answer differently for an
absent key and for a null.

Exceptions are kept with their text. The CMDB client raises three kinds: request
exceptions, its own errors, and anything else (a bare `KeyError` on a 5xx).
-/

namespace InstanceLifecycle

/-- The Python values that a message or a column may hold; a dict keeps its
entries in the order of insertion. -/
inductive Value where
  | null
  | bool (value : Bool)
  | int (value : Int)
  | str (text : String)
  | list (items : List Value)
  | dict (entries : List (String × Value))

namespace Value

/-- Python truthiness. -/
def truthy : Value → Bool
  | .null => false
  | .bool value => value
  | .int value => value ≠ 0
  | .str text => text ≠ ""
  | .list items => !items.isEmpty
  | .dict entries => !entries.isEmpty

/-- Whether the value is None. -/
def isNull : Value → Bool
  | .null => true
  | _ => false

/-- Whether the value is this very text. -/
def isStr (value : Value) (text : String) : Bool :=
  match value with
  | .str stored => stored = text
  | _ => false

/-- The test for a text holds of that text alone, and of no value of another
kind. -/
theorem isStr_iff (value : Value) (text : String) :
    value.isStr text = true ↔ value = .str text := by
  cases value <;> simp [isStr]

/-- An optional string as a column value. -/
def ofOption : Option String → Value
  | some text => .str text
  | none => .null

end Value

/-- Truthiness of an optional string: neither `None` nor empty. -/
def truthy (text : Option String) : Bool :=
  match text with
  | some text => text ≠ ""
  | none => false

/-- A text counts as true when it is there and not empty, as in the conditions
of the handler. -/
theorem truthy_iff (text : Option String) : truthy text = true ↔ ∃ s, text = some s ∧ s ≠ "" := by
  cases text <;> simp [truthy]

/-- The exceptions that reach the service's own code, by the class that its
handlers ask for. The classes are disjoint here: an exception of the client
library that is a `RequestException` and a `JSONDecodeError` at once is left out. -/
inductive Exn where
  | requestException (text : String)
  | cmdbError (text : String)
  | keyError (text : String)
  | jsonDecodeError (text : String)
  | otherException (text : String)
  | messageContractError (text : String)
  | cmdbException (text : String)
deriving DecidableEq

namespace Exn

/-- `str(exc)`. -/
def text : Exn → String
  | .requestException text => text
  | .cmdbError text => text
  | .keyError text => text
  | .jsonDecodeError text => text
  | .otherException text => text
  | .messageContractError text => text
  | .cmdbException text => text

/-- `isinstance(exc, _CmdbException)`. -/
def isCmdbException : Exn → Bool
  | .cmdbException _ => true
  | _ => false

/-- `isinstance(exc, PermanentError)`. -/
def isPermanentError : Exn → Bool
  | .messageContractError _ => true
  | .cmdbException _ => true
  | _ => false

/-- The exceptions `handle_message` does not retry. -/
def abortsMessage : Exn → Bool
  | .keyError _ => true
  | .jsonDecodeError _ => true
  | exc => exc.isPermanentError

end Exn

/-- What returns after another computation: that one returned as well. -/
theorem bind_returned {α β : Type} {first : Except Exn α} {next : α → Except Exn β} {result : β}
    (returned : first >>= next = .ok result) :
    ∃ value, first = .ok value ∧ next value = .ok result := by
  cases first with
  | error exc => cases returned
  | ok value => exact ⟨value, rfl, returned⟩

/-- One key of a dictionary that came out of JSON. -/
inductive Slot (α : Type) where
  | absent
  | null
  | value (stored : α)
deriving DecidableEq

namespace Slot

variable {α : Type}

/-- `d.get(key)`: an absent key and a null are both `None`. -/
def get : Slot α → Option α
  | .value stored => some stored
  | _ => none

/-- `d[key]`: an absent key raises. -/
def item (key : String) : Slot α → Except Exn (Option α)
  | .absent => .error (.keyError key)
  | .null => .ok none
  | .value stored => .ok (some stored)

/-- `key in d`. -/
def present : Slot α → Bool
  | .absent => false
  | _ => true

end Slot

/-- An operation on `None` that needs a dictionary or a list. -/
def noneError {α : Type} (operation : String) : Except Exn α :=
  .error (.otherException ("'NoneType' object: " ++ operation))

/-! ## Strings -/

/-- `str.startswith`, on the characters. -/
def startsWith (text start : String) : Bool := start.toList.isPrefixOf text.toList

/-- The text without its first characters, as the slice `text[count:]`. -/
def dropChars (text : String) (count : Nat) : String := String.ofList (text.toList.drop count)

/-- `text.split(sep, 1)[0]`. -/
def splitHead (sep : Char) (text : String) : String :=
  String.ofList (text.toList.takeWhile (fun c => c ≠ sep))

/-- `text.split(sep, 1)[1]` of a text that contains the separator. -/
def splitRest (sep : Char) (text : String) : String :=
  String.ofList ((text.toList.dropWhile (fun c => c ≠ sep)).drop 1)

end InstanceLifecycle
