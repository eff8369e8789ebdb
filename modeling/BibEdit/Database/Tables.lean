import BibEdit.Library.Import

set_option autoImplicit false

namespace BibEdit.Database

structure RecordRow where
  id : Int
  key : String
  libraryId : Int
  itemType : Option String
  deriving DecidableEq

structure FieldRow where
  recordId : Int
  name : String
  value : String
  deriving DecidableEq

structure CreatorRow where
  recordId : Int
  position : Nat
  creator : Creator
  deriving DecidableEq

structure TagRow where
  recordId : Int
  tag : String
  position : Nat
  deriving DecidableEq

structure MembershipRow where
  recordId : Int
  collectionId : Int
  deriving DecidableEq

structure Tables where
  records : List RecordRow := []
  fields : List FieldRow := []
  creators : List CreatorRow := []
  tags : List TagRow := []
  collections : List Collection := []
  memberships : List MembershipRow := []
  locked : Bool := false
  deriving DecidableEq

def sortBy {α κ : Type} [LT κ] [DecidableLT κ] [DecidableEq κ] (rank : α -> κ) (items : List α) :
    List α :=
  items.foldr (place rank) []

namespace Tables

def entryOf (tables : Tables) (row : RecordRow) : Entry where
  id := row.id
  key := row.key
  libraryId := row.libraryId
  itemType := row.itemType
  fields := sortBy Prod.fst ((tables.fields.filter fun field => field.recordId == row.id).map
    fun field => (field.name, field.value))
  creators := (sortBy CreatorRow.position (tables.creators.filter fun creator =>
    creator.recordId == row.id)).map CreatorRow.creator
  tags := (sortBy TagRow.position (tables.tags.filter fun tag => tag.recordId == row.id)).map
    TagRow.tag
  collections := sortBy id ((tables.memberships.filter fun member =>
    member.recordId == row.id).map MembershipRow.collectionId)

def library (tables : Tables) : Library where
  entries := (sortBy RecordRow.id tables.records).map tables.entryOf
  collections := sortBy Collection.id tables.collections
  locked := tables.locked

def recordOfKey? (tables : Tables) (key : String) : Option RecordRow :=
  tables.records.find? fun row => row.key == key

def hasRecord (tables : Tables) (id : Int) : Bool := tables.records.any fun row => row.id == id

def hasCollection (tables : Tables) (id : Int) : Bool :=
  tables.collections.any fun row => row.id == id

def requireNew (taken : Bool) (columns : String) : Except Fault Unit :=
  if taken then .error (.constraint ("UNIQUE constraint failed: " ++ columns)) else .ok ()

def requireReferenced (there : Bool) : Except Fault Unit :=
  if there then .ok () else .error (.constraint "FOREIGN KEY constraint failed")

def upsertCollection (listed : Library.ListedCollection) (tables : Tables) : Except Fault Tables := do
  requireStorable listed.id
  requireStorable listed.libraryId
  let row : Collection := ⟨listed.id, listed.name, listed.libraryId⟩
  if tables.hasCollection listed.id then
    return { tables with
      collections := tables.collections.map fun old => if old.id == listed.id then row else old }
  else return { tables with collections := tables.collections ++ [row] }

def newId (tables : Tables) : Except Fault Int :=
  let next :=
    match (tables.records.map RecordRow.id).max? with
    | some greatest => greatest + 1
    | none => 1
  if isStorable next then .ok next else .error (.device Library.fullMessage)

/-- A record whose key is there keeps its number. -/
def upsertRecord (key : String) (libraryId : Int) (itemType : Option String) (tables : Tables) :
    Except Fault Tables := do
  requireStorable libraryId
  if (tables.recordOfKey? key).isSome then
    return { tables with
      records := tables.records.map fun old =>
        if old.key == key then { old with libraryId := libraryId, itemType := itemType } else old }
  else
    let id <- tables.newId
    return { tables with records := tables.records ++ [⟨id, key, libraryId, itemType⟩] }

def deleteFields (id : Int) (tables : Tables) : Tables :=
  { tables with fields := tables.fields.filter fun row => row.recordId != id }

def deleteCreators (id : Int) (tables : Tables) : Tables :=
  { tables with creators := tables.creators.filter fun row => row.recordId != id }

def deleteTags (id : Int) (tables : Tables) : Tables :=
  { tables with tags := tables.tags.filter fun row => row.recordId != id }

def deleteMemberships (id : Int) (tables : Tables) : Tables :=
  { tables with memberships := tables.memberships.filter fun row => row.recordId != id }

def insertField (row : FieldRow) (tables : Tables) : Except Fault Tables := do
  requireNew (tables.fields.any fun old => old.recordId == row.recordId && old.name == row.name)
    "fields.record_id, fields.name"
  requireReferenced (tables.hasRecord row.recordId)
  return { tables with fields := tables.fields ++ [row] }

def insertCreator (id : Int) (parts : CreatorOf Toml.Value) (position : Nat) (tables : Tables) :
    Except Fault Tables := do
  let creator <- Library.storedCreator parts
  requireNew (tables.creators.any fun old => old.recordId == id && old.position == position)
    "creators.record_id, creators.position"
  requireReferenced (tables.hasRecord id)
  return { tables with creators := tables.creators ++ [⟨id, position, creator⟩] }

/-- A tag that the record has is passed over. -/
def insertTag (row : TagRow) (tables : Tables) : Except Fault Tables :=
  if tables.tags.any fun old => old.recordId == row.recordId && old.tag == row.tag then .ok tables
  else do
    requireReferenced (tables.hasRecord row.recordId)
    return { tables with tags := tables.tags ++ [row] }

/-- A collection that the record is in is passed over. -/
def insertMembership (row : MembershipRow) (tables : Tables) : Except Fault Tables := do
  requireStorable row.collectionId
  if tables.memberships.contains row then return tables
  else
    requireReferenced (tables.hasRecord row.recordId && tables.hasCollection row.collectionId)
    return { tables with memberships := tables.memberships ++ [row] }

end Tables

end BibEdit.Database
