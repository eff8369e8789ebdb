import BibEdit.Creator
import BibEdit.Field
import BibEdit.ItemType

set_option autoImplicit false

namespace BibEdit

/-- A record as it is held while it is worked on: its data, and what was changed since it was
loaded or saved. A field that is listed without a value reads as empty. -/
structure Record where
  id : Int
  key : String
  libraryId : Int
  itemType : Option String
  fields : List (String × Option String)
  creators : List Creator
  tags : List String
  collections : List Int
  dirtyFields : List String
  dirtyCreators : Bool
  deriving DecidableEq

/-- The entry for a key, put in the place of the one before or at the end. -/
def putEntry {α : Type} (key : String) (value : α) : List (String × α) -> List (String × α)
  | [] => [(key, value)]
  | (name, old) :: rest =>
    if name == key then (key, value) :: rest else (name, old) :: putEntry key value rest

@[simp] theorem lookup_putEntry {α : Type} (key : String) (value : α) (entries : List (String × α)) :
    (putEntry key value entries).lookup key = some value := by
  induction entries with
  | nil => simp [putEntry]
  | cons entry rest ih =>
    obtain ⟨name, old⟩ := entry
    by_cases same : name = key
    next => simp [putEntry, same]
    next =>
      have other : (key == name) = false := by simpa using fun h => same h.symm
      simp [putEntry, same, List.lookup_cons, other, ih]

theorem lookup_putEntry_of_ne {α : Type} (key other : String) (value : α)
    (entries : List (String × α)) (distinct : other ≠ key) :
    (putEntry key value entries).lookup other = entries.lookup other := by
  have apart : (other == key) = false := by simpa using distinct
  induction entries with
  | nil => simp [putEntry, List.lookup_cons, apart]
  | cons entry rest ih =>
    obtain ⟨name, old⟩ := entry
    by_cases same : name = key
    next => simp [putEntry, same, List.lookup_cons, apart]
    next => simp [putEntry, same, List.lookup_cons, ih]

namespace Record

def itemTypeNumber (record : Record) : Option Nat :=
  match record.itemType with
  | some name => if name == "" then none else ItemType.number? name
  | none => none

def value? (record : Record) (name : String) : Option (Option String) :=
  if name == "itemType" then some (some (record.itemType.getD ""))
  else if !Field.isScalarName name then none
  else some ((record.fields.lookup name).getD (some ""))

def setField (record : Record) (name : String) (value : Option String) : Option Record :=
  if !Field.isScalarName name then none
  else some { record with
    fields := putEntry name value record.fields
    dirtyFields :=
      if record.dirtyFields.contains name then record.dirtyFields
      else record.dirtyFields ++ [name] }

def setCreators (record : Record) (creators : List Creator) : Record :=
  { record with creators := creators, dirtyCreators := true }

def clean (record : Record) : Record := { record with dirtyFields := [], dirtyCreators := false }

def isDirty (record : Record) : Bool := !record.dirtyFields.isEmpty || record.dirtyCreators

end Record

end BibEdit
