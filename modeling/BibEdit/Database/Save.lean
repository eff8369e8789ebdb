import BibEdit.Database.Session
import BibEdit.Library.Save

set_option autoImplicit false

namespace BibEdit.Database

namespace Tables

def hasField (tables : Tables) (id : Int) (name : String) : Bool :=
  tables.fields.any fun row => row.recordId == id && row.name == name

/-- Inserts a field or changes the value of the one that is there. While the tables are locked no
value can be changed. -/
def upsertField (id : Int) (name : String) (value : Option String) (tables : Tables) :
    Except Fault Tables :=
  match value with
  | none => .error (.constraint "NOT NULL constraint failed: fields.value")
  | some value =>
    if tables.hasField id name then
      if tables.locked then .error (.constraint "read only")
      else .ok { tables with
        fields := tables.fields.map fun old =>
          if old.recordId == id && old.name == name then ⟨id, name, value⟩ else old }
    else do
      requireReferenced (tables.hasRecord id)
      return { tables with fields := tables.fields ++ [⟨id, name, value⟩] }

end Tables

inductive Write where
  | upsertField (id : Int) (name : String) (value : Option String)
  | deleteCreators (id : Int)
  | insertCreator (id : Int) (creator : Creator) (position : Nat)
  deriving DecidableEq

def Write.perform : Write -> Tables -> Except Fault Tables
  | upsertField id name value, tables => tables.upsertField id name value
  | deleteCreators id, tables => .ok (tables.deleteCreators id)
  | insertCreator id creator position, tables =>
    tables.insertCreator id (creator.map .string) position

/-- Whether a statement is refused, for whatever reason, by what the tables hold at that point. -/
abbrev Objections := Tables -> Write -> Option Fault

def noObjections : Objections := fun _ _ => none

def Tables.attempt (objections : Objections) (tables : Tables) (write : Write) :
    Except Fault Tables :=
  match objections tables write with
  | some fault => .error fault
  | none => write.perform tables

def writesOf (record : Record) : List Write :=
  (Library.sortNames record.dirtyFields).map (fun name =>
      .upsertField record.id name (record.fields.lookup name).join) ++
    if record.dirtyCreators then
      .deleteCreators record.id :: (record.creators.zipIdx 1).map fun placed =>
        .insertCreator record.id placed.1 placed.2
    else []

def recordExists (id : Int) (tables : Tables) : Except Fault Bool := do
  requireStorable id
  return tables.hasRecord id

def writeRecord (objections : Objections) (record : Record) : Session Fault Unit := do
  if <- Session.query (recordExists record.id) then
    (writesOf record).forM fun write =>
      Session.execute (fun fault => fault) fun tables => tables.attempt objections write
  else throw (.gone record.key)

structure Saved where
  result : Except Fault Unit
  record : Record
  tables : Tables

/-- Saves what was changed in a record, which may belong to no library. -/
def save (objections : Objections) (attached : Bool) (record : Record) (tables : Tables) : Saved :=
  if !attached then ⟨.error (.detached record.key), record, tables⟩
  else if !record.isDirty then ⟨.ok (), record, tables⟩
  else
    match (Session.transaction (writeRecord objections record)).onTables tables with
    | (.ok (), after) => ⟨.ok (), record.clean, after⟩
    | (.error fault, after) => ⟨.error fault, record, after⟩

end BibEdit.Database
