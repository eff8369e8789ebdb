import BibEdit.Database.Session

set_option autoImplicit false

namespace BibEdit.Database

open Library (ImportError ListedRecord Listing)

def execute (statement : Tables -> Except Fault Tables) : Session ImportError Unit :=
  Session.execute .fault statement

def recordId (key : String) (tables : Tables) : Except ImportError Int :=
  match tables.recordOfKey? key with
  | some row => .ok row.id
  | none => .error (.fault (.failure "no such record"))

def importRecord (path : String) (known : List Int) (listed : ListedRecord) :
    Session ImportError Unit := do
  match listed.collections.find? fun value => !value.integer?.any known.contains with
  | some collection => throw (Library.unknownError path listed.key collection)
  | none =>
    execute (Tables.upsertRecord listed.key listed.libraryId listed.itemType)
    let id <- Session.query (recordId listed.key)
    execute fun tables => .ok (tables.deleteFields id)
    execute fun tables => .ok (tables.deleteCreators id)
    execute fun tables => .ok (tables.deleteTags id)
    execute fun tables => .ok (tables.deleteMemberships id)
    (sortFields listed.fields).forM fun field =>
      execute (Tables.insertField ⟨id, field.1, field.2⟩)
    (listed.creators.zipIdx 1).forM fun placed =>
      execute (Tables.insertCreator id placed.1 placed.2)
    (listed.tags.zipIdx 1).forM fun placed =>
      execute (Tables.insertTag ⟨id, placed.1, placed.2⟩)
    (listed.collections.filterMap Toml.Value.integer?).forM fun collection =>
      execute (Tables.insertMembership ⟨id, collection⟩)

def importRows (path : String) (listing : Listing) : Session ImportError Nat := do
  listing.collections.forM fun listed => execute (Tables.upsertCollection listed)
  let known <- Session.query fun tables => .ok (tables.collections.map Collection.id)
  listing.records.forM (importRecord path known)
  return listing.records.length

def importFile (path : String) (content : Option String) : Session ImportError Nat := do
  match Library.readListing path content with
  | .error error => throw error
  | .ok listing => Session.transaction (importRows path listing)

end BibEdit.Database
