import BibEdit.Library.Import
import BibEdit.Library.Save

set_option autoImplicit false

namespace BibEdit.Library

structure Workspace where
  library : Library := {}
  copies : List Record := []

inductive Action where
  | importFile (path : String) (content : Option String)
  | load (ids : List Int)
  | setField (copy : Nat) (name value : String)
  | setCreators (copy : Nat) (creators : List Creator)
  | save (copy : Nat)
  | delete (id : Int)

namespace Workspace

def edit (workspace : Workspace) (copy : Nat) (change : Record -> Record) : Workspace :=
  { workspace with copies := workspace.copies.modify copy change }

def saveCopy (workspace : Workspace) (copy : Nat) : Workspace :=
  match workspace.copies[copy]? with
  | none => workspace
  | some record =>
    match save record workspace.library with
    | (.ok saved, library) => ⟨library, workspace.copies.set copy saved⟩
    | (.error _, library) => { workspace with library := library }

def perform (workspace : Workspace) : Action -> Workspace
  | .importFile path content =>
    { workspace with library := (workspace.library.importFile path content).2 }
  | .load ids =>
    match workspace.library.load ids with
    | .ok records => { workspace with copies := workspace.copies ++ records }
    | .error _ => workspace
  | .setField copy name value =>
    workspace.edit copy fun record => (record.setField name (some value)).getD record
  | .setCreators copy creators => workspace.edit copy fun record => record.setCreators creators
  | .save copy => workspace.saveCopy copy
  | .delete id =>
    match workspace.library.delete id with
    | .ok library => { workspace with library := library }
    | .error _ => workspace

/-- The workspaces that actions of some sort lead to, from an empty library on. -/
inductive Reachable (allowed : Action -> Prop) : Workspace -> Prop where
  | start : Reachable allowed {}
  | perform (workspace : Workspace) (action : Action) (before : Reachable allowed workspace)
      (permitted : allowed action) : Reachable allowed (workspace.perform action)

end Workspace

end BibEdit.Library
