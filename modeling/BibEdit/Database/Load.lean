import BibEdit.Database.Tables
import BibEdit.Library.Query

set_option autoImplicit false

namespace BibEdit.Database

def RecordRow.bare (row : RecordRow) : Record where
  id := row.id
  key := row.key
  libraryId := row.libraryId
  itemType := row.itemType
  fields := []
  creators := []
  tags := []
  collections := []
  dirtyFields := []
  dirtyCreators := false

def FieldRow.addTo (row : FieldRow) (record : Record) : Record :=
  { record with fields := putEntry row.name (some row.value) record.fields }

def TagRow.addTo (row : TagRow) (record : Record) : Record :=
  { record with tags := record.tags ++ [row.tag] }

def MembershipRow.addTo (row : MembershipRow) (record : Record) : Record :=
  { record with collections := record.collections ++ [row.collectionId] }

/-- What was read so far: records by their numbers, and apart from them the rows of all creators in
the order in which they came. -/
structure Loading where
  record? : Int -> Option Record
  creators : List CreatorRow

namespace Loading

def empty : Loading := ⟨fun _ => none, []⟩

def put (loading : Loading) (record : Record) : Loading :=
  { loading with
    record? := fun id => if id = record.id then some record else loading.record? id }

def addRecord (loading : Loading) (row : RecordRow) : Loading := loading.put row.bare

def addCreators (loading : Loading) (rows : List CreatorRow) : Loading :=
  { loading with creators := loading.creators ++ rows }

def amend (loading : Loading) (id : Int) (change : Record -> Record) : Except Fault Loading :=
  match loading.record? id with
  | some record => .ok { loading with
      record? := fun other => if other = id then some (change record) else loading.record? other }
  | none => .error (.failure (toString id))

def amendAll {α : Type} (owner : α -> Int) (addTo : α -> Record -> Record) (items : List α)
    (loading : Loading) : Except Fault Loading :=
  items.foldlM (fun loading item => loading.amend (owner item) (addTo item)) loading

def creatorsOf (loading : Loading) (id : Int) : List Creator :=
  (loading.creators.filter fun row => row.recordId == id).map CreatorRow.creator

def attachCreators (loading : Loading) : Except Fault Loading :=
  amendAll id (fun number record => { record with creators := loading.creatorsOf number })
    (distinct (loading.creators.map CreatorRow.recordId)) loading

end Loading

namespace Tables

/-- The rows of the records asked for, record by record, those of one record by their rank. -/
def rowsOf {α κ : Type} [LT κ] [DecidableLT κ] [DecidableEq κ] (owner : α -> Int) (rank : α -> κ)
    (asked : List Int) (rows : List α) : List α :=
  (sortNumbers asked).flatMap fun id => sortBy rank (rows.filter fun row => owner row == id)

def readRecords (tables : Tables) (portion : List Int) (loading : Loading) : Loading :=
  (rowsOf RecordRow.id RecordRow.id portion tables.records).foldl Loading.addRecord loading

def readPortion (tables : Tables) (loading : Loading) (portion : List Int) :
    Except Fault Loading := do
  portion.forM requireStorable
  let fields := rowsOf FieldRow.recordId FieldRow.name portion tables.fields
  let creators := rowsOf CreatorRow.recordId CreatorRow.position portion tables.creators
  let tags := rowsOf TagRow.recordId TagRow.position portion tables.tags
  let memberships :=
    rowsOf MembershipRow.recordId MembershipRow.collectionId portion tables.memberships
  let loading := tables.readRecords portion loading
  let loading <- loading.amendAll FieldRow.recordId FieldRow.addTo fields
  let loading := loading.addCreators creators
  let loading <- loading.amendAll TagRow.recordId TagRow.addTo tags
  loading.amendAll MembershipRow.recordId MembershipRow.addTo memberships

/-- The records with the given numbers, in their order; numbers without a record are passed over. -/
def load (tables : Tables) (ids : List Int) : Except Fault (List Record) := do
  let loading <- (Library.portions ids).foldlM tables.readPortion Loading.empty
  let loading <- loading.attachCreators
  return ids.filterMap loading.record?

def inScope (libraryId : Option Int) (row : RecordRow) : Bool :=
  libraryId.all fun id => row.libraryId == id

def select (tables : Tables) (answers : RecordRow -> Bool) (libraryId : Option Int) :
    Except Fault (List Int) := do
  Library.requireScope libraryId
  return (sortBy RecordRow.id (tables.records.filter fun row =>
    answers row && inScope libraryId row)).map RecordRow.id

def list (tables : Tables) (libraryId : Option Int) : Except Fault (List Int) :=
  tables.select (fun _ => true) libraryId

def question (tables : Tables) (probe : Probe) : Except Fault (Option (RecordRow -> Bool)) :=
  if probe.field == "creator" && probe.test == .contains then
    .ok (some fun row => tables.creators.any fun creator =>
      creator.recordId == row.id && Library.creatorHolds probe.term creator.creator)
  else if probe.field == "tag" && probe.test == .contains then
    .ok (some fun row => tables.tags.any fun tag =>
      tag.recordId == row.id && Library.holds probe.term tag.tag)
  else if probe.field == "collection" && probe.test == .is then
    match Text.wholeNumber? probe.term.toList with
    | none => .ok none
    | some id => do
      requireStorable id
      return some fun row => tables.memberships.any fun member =>
        member.recordId == row.id && member.collectionId == id
  else if probe.field == "itemType" then
    .ok (some fun row => row.itemType.any (Library.passes probe.test probe.term))
  else if Field.isScalarName probe.field then
    .ok (some fun row => tables.fields.any fun field => field.recordId == row.id &&
      (field.name == probe.field && Library.passes probe.test probe.term field.value))
  else .error (.noProbe probe.field probe.test.name)

def query (tables : Tables) (probe : Probe) (libraryId : Option Int) :
    Except Fault (List Int) := do
  match <- tables.question probe with
  | none => return []
  | some answers => tables.select answers libraryId

def store (tables : Tables) : Store Record where
  query := tables.query
  list := tables.list
  load := tables.load

end Tables

end BibEdit.Database
