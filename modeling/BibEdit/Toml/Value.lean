import BibEdit.Decimal.Binary64

set_option autoImplicit false

namespace BibEdit.Toml

structure Date where
  year : Nat
  month : Nat
  day : Nat
  deriving DecidableEq

structure Time where
  hour : Nat
  minute : Nat
  second : Nat
  micro : Nat
  deriving DecidableEq

/-- A value of a document. A moment may have an offset, in minutes east; tables keep their order. -/
inductive Value where
  | string (text : String)
  | integer (number : Int)
  | float (number : Binary64)
  | boolean (truth : Bool)
  | date (date : Date)
  | time (time : Time)
  | moment (date : Date) (time : Time) (offset : Option Int)
  | array (items : List Value)
  | table (entries : List (String × Value))

abbrev Table := List (String × Value)

class Writer where
  write : Table -> String

namespace Value

def isBlank : Value -> Bool
  | string text => text == ""
  | integer number => number == 0
  | float number => number.isZero
  | boolean truth => !truth
  | array items => items.isEmpty
  | table entries => entries.isEmpty
  | _ => false

/-- An integer; truth counts as one. -/
def integer? : Value -> Option Int
  | integer number => some number
  | boolean truth => some (if truth then 1 else 0)
  | _ => none

def string? : Value -> Option String
  | string text => some text
  | _ => none

def table? : Value -> Option Table
  | table entries => some entries
  | _ => none

/-- What can be gone through item by item; the items of a text or a table are texts. -/
def items? : Value -> Option (List Value)
  | array items => some items
  | string text => some (text.toList.map fun c => string (String.singleton c))
  | table entries => some (entries.map fun entry => string entry.1)
  | _ => none

@[simp] theorem string?_string (text : String) : (string text).string? = some text := rfl

@[simp] theorem integer?_integer (number : Int) : (integer number).integer? = some number := rfl

@[simp] theorem items?_array (items : List Value) : (array items).items? = some items := rfl

@[simp] theorem table?_table (entries : Table) : (table entries).table? = some entries := rfl

end Value

mutual

def Value.equal : Value -> Value -> Bool
  | .string text, .string other => text == other
  | .integer number, .integer other => number == other
  | .float number, .float other => number == other
  | .boolean truth, .boolean other => truth == other
  | .date date, .date other => date == other
  | .time time, .time other => time == other
  | .moment date time offset, .moment otherDate otherTime otherOffset =>
    date == otherDate && time == otherTime && offset == otherOffset
  | .array items, .array others => equalItems items others
  | .table entries, .table others => equalEntries entries others
  | _, _ => false

def equalItems : List Value -> List Value -> Bool
  | [], [] => true
  | item :: items, other :: others => item.equal other && equalItems items others
  | _, _ => false

def equalEntries : List (String × Value) -> List (String × Value) -> Bool
  | [], [] => true
  | (key, value) :: entries, (other, content) :: others =>
    key == other && value.equal content && equalEntries entries others
  | _, _ => false

end

mutual

theorem Value.equal_iff (value other : Value) : value.equal other = true <-> value = other := by
  cases value <;> cases other <;>
    simp [Value.equal, equalItems_iff, equalEntries_iff, and_assoc]

theorem equalItems_iff (items others : List Value) :
    equalItems items others = true <-> items = others := by
  cases items <;> cases others <;> simp [equalItems, Value.equal_iff, equalItems_iff]

theorem equalEntries_iff (entries others : List (String × Value)) :
    equalEntries entries others = true <-> entries = others := by
  cases entries with
  | nil => cases others <;> simp [equalEntries]
  | cons entry entries =>
    obtain ⟨key, value⟩ := entry
    cases others with
    | nil => simp [equalEntries]
    | cons other others =>
      obtain ⟨name, content⟩ := other
      simp [equalEntries, Value.equal_iff, equalEntries_iff]

end

instance : DecidableEq Value := fun value other =>
  decidable_of_iff (value.equal other = true) (Value.equal_iff value other)

end BibEdit.Toml
