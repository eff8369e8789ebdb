import BibEdit.Library.Basic
import BibEdit.Revision

set_option autoImplicit false

namespace BibEdit.Library

/-- Writes one field. A value that is there cannot be changed while the library is locked. -/
def writeField (locked : Bool) (fields : List (String × String)) (name : String)
    (value : Option String) : Except Fault (List (String × String)) :=
  match value with
  | none => .error (.constraint "NOT NULL constraint failed: fields.value")
  | some value =>
    if locked && (fields.lookup name).isSome then .error (.constraint "read only")
    else .ok (putField name value fields)

def sortNames (names : List String) : List String := names.mergeSort fun a b => decide (a <= b)

def writeFields (locked : Bool) (record : Record) (fields : List (String × String)) :
    Except Fault (List (String × String)) :=
  (sortNames record.dirtyFields).foldlM
    (fun fields name => writeField locked fields name (record.fields.lookup name).join) fields

def updated (locked : Bool) (record : Record) (entry : Entry) : Except Fault Entry := do
  let fields <- writeFields locked record entry.fields
  return { entry with
    fields := fields
    creators := if record.dirtyCreators then record.creators else entry.creators }

/-- Saves what was changed in a record: all of it, or nothing. -/
def save (record : Record) (library : Library) : Except Fault Record × Library :=
  -- Without changes the library is not even asked whether it still has the record.
  if !record.isDirty then (.ok record, library)
  else
    match library.entry? record.id with
    | none => (.error (.gone record.key), library)
    | some entry =>
      match updated library.locked record entry with
      | .error fault => (.error fault, library)
      | .ok entry => (.ok record.clean, library.putEntry entry)

def keeping : Keeping Library Record where
  record record := record
  replace _ record := record
  read := Record.read
  save := save

end BibEdit.Library
