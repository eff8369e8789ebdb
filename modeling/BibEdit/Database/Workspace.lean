import BibEdit.Database.Import
import BibEdit.Database.Load
import BibEdit.Database.Save
import BibEdit.Revision

set_option autoImplicit false

namespace BibEdit.Database

def Tables.deleteRecord (id : Int) (tables : Tables) : Except Fault Tables := do
  requireStorable id
  return { (((tables.deleteFields id).deleteCreators id).deleteTags id).deleteMemberships id with
    records := tables.records.filter fun row => row.id != id }

def keeping (objections : Objections) : Keeping Tables Record where
  record record := record
  replace _ record := record
  read := Record.read
  save record tables :=
    let saved := save objections true record tables
    (saved.result.map fun _ => saved.record, saved.tables)

structure Workspace where
  tables : Tables := {}
  copies : List Record := []

inductive Action where
  | importFile (path : String) (content : Option String)
  | delete (id : Int)
  | load (ids : List Int)
  | setField (copy : Nat) (name : String) (value : Option String)
  | setCreators (copy : Nat) (creators : List Creator)
  | save (copy : Nat) (objections : Objections)
  | commit (copy : Nat) (changes : List Change) (objections : Objections)
  | batch (copies : List Nat) (revision : Revision) (fields : List String) (objections : Objections)

namespace Workspace

def work (workspace : Workspace) (copy : Nat) (task : Record -> Tables -> Record × Tables) :
    Workspace :=
  match workspace.copies[copy]? with
  | none => workspace
  | some record =>
    let (after, tables) := task record workspace.tables
    ⟨tables, workspace.copies.set copy after⟩

def revise (objections : Objections) (revision : Revision) (fields : List String)
    (workspace : Workspace) (copy : Nat) : Workspace :=
  workspace.work copy fun record tables =>
    let outcome := Revision.reviseOne (keeping objections) revision fields tables record
    (outcome.item, outcome.place)

def perform (workspace : Workspace) : Action -> Workspace
  | .importFile path content =>
    { workspace with tables := ((importFile path content).onTables workspace.tables).2 }
  | .delete id =>
    match workspace.tables.deleteRecord id with
    | .ok tables => { workspace with tables := tables }
    | .error _ => workspace
  | .load ids =>
    match workspace.tables.load ids with
    | .ok records => { workspace with copies := workspace.copies ++ records }
    | .error _ => workspace
  | .setField copy name value =>
    workspace.work copy fun record tables => ((record.setField name value).getD record, tables)
  | .setCreators copy creators =>
    workspace.work copy fun record tables => (record.setCreators creators, tables)
  | .save copy objections =>
    workspace.work copy fun record tables =>
      let saved := Database.save objections true record tables
      (saved.record, saved.tables)
  | .commit copy changes objections =>
    workspace.work copy fun record tables =>
      let outcome := Revision.commit (keeping objections) tables record changes
      (outcome.item, outcome.place)
  | .batch copies revision fields objections =>
    match Pattern.validate revision.search revision.kind with
    | .error _ => workspace
    | .ok _ => copies.foldl (revise objections revision fields) workspace

end Workspace

end BibEdit.Database
