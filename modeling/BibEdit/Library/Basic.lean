import BibEdit.Distinct
import BibEdit.Fault
import BibEdit.Record

set_option autoImplicit false

namespace BibEdit

structure Collection where
  id : Int
  name : String
  libraryId : Int
  deriving DecidableEq

/-- A record as the library keeps it: fields by name, creators and tags in their order, collections
by number. -/
structure Entry where
  id : Int
  key : String
  libraryId : Int
  itemType : Option String
  fields : List (String × String)
  creators : List Creator
  tags : List String
  collections : List Int
  deriving DecidableEq

/-- Entries and collections, each by number. While a library is locked the fields that a record has
keep their values. -/
structure Library where
  entries : List Entry := []
  collections : List Collection := []
  locked : Bool := false
  deriving DecidableEq

/-- Puts an item into an ascending list, in the place of the one with its rank if there is one. -/
def place {α κ : Type} [LT κ] [DecidableLT κ] [DecidableEq κ] (rank : α -> κ) (item : α) :
    List α -> List α
  | [] => [item]
  | other :: rest =>
    if rank item = rank other then item :: rest
    else if rank item < rank other then item :: other :: rest
    else other :: place rank item rest

theorem mem_of_mem_place {α κ : Type} [LT κ] [DecidableLT κ] [DecidableEq κ] (rank : α -> κ)
    (item other : α) (items : List α) (found : other ∈ place rank item items) :
    other = item \/ other ∈ items := by
  induction items with
  | nil => simpa [place] using found
  | cons head rest ih =>
    unfold place at found
    split at found
    next => simp at found; rcases found with same | later <;> simp [*]
    next =>
      split at found
      next => simpa using found
      next =>
        rcases List.mem_cons.1 found with same | later
        next => simp [same]
        next => rcases ih later with same | kept <;> simp [*]

/-- The numbers of 64 bits, which can be stored. -/
def isStorable (number : Int) : Bool :=
  -9223372036854775808 <= number && number < 9223372036854775808

def requireStorable (number : Int) : Except Fault Unit :=
  if isStorable number then .ok () else .error .outOfRange

def putField (name value : String) (fields : List (String × String)) : List (String × String) :=
  place Prod.fst (name, value) fields

def sortFields (fields : List (String × String)) : List (String × String) :=
  fields.foldl (fun sorted field => putField field.1 field.2 sorted) []

def sortNumbers (numbers : List Int) : List Int :=
  numbers.foldl (fun sorted number => place id number sorted) []

namespace Entry

def record (entry : Entry) : Record where
  id := entry.id
  key := entry.key
  libraryId := entry.libraryId
  itemType := entry.itemType
  fields := entry.fields.map fun (name, value) => (name, some value)
  creators := entry.creators
  tags := entry.tags
  collections := entry.collections
  dirtyFields := []
  dirtyCreators := false

end Entry

namespace Library

def entry? (library : Library) (id : Int) : Option Entry :=
  library.entries.find? fun entry => entry.id == id

def entryOfKey? (library : Library) (key : String) : Option Entry :=
  library.entries.find? fun entry => entry.key == key

def putEntry (library : Library) (entry : Entry) : Library :=
  { library with entries := place Entry.id entry library.entries }

def putCollection (library : Library) (collection : Collection) : Library :=
  { library with collections := place Collection.id collection library.collections }

def nextId (library : Library) : Int :=
  match library.entries.getLast? with
  | some entry => entry.id + 1
  | none => 1

def hasCollection (library : Library) (id : Int) : Bool :=
  library.collections.any fun collection => collection.id == id

def inScope (libraryId : Option Int) (entry : Entry) : Bool :=
  libraryId.all fun id => entry.libraryId == id

def requireScope (libraryId : Option Int) : Except Fault Unit :=
  match libraryId with
  | some id => requireStorable id
  | none => .ok ()

def list (library : Library) (libraryId : Option Int) : Except Fault (List Int) := do
  requireScope libraryId
  return (library.entries.filter (inScope libraryId)).map Entry.id

def delete (library : Library) (id : Int) : Except Fault Library := do
  requireStorable id
  return { library with entries := library.entries.filter fun entry => entry.id != id }

def portionSize : Nat := 900

def portions (ids : List Int) : List (List Int) :=
  (List.range ((ids.length + portionSize - 1) / portionSize)).map fun index =>
    (ids.drop (index * portionSize)).take portionSize

/-- Every portion that asks for a record brings its creators once more. -/
def loadEntry (asked : List (List Int)) (entry : Entry) : Record :=
  let copies := asked.countP fun portion => portion.contains entry.id
  { entry.record with creators := (List.replicate copies entry.creators).flatten }

/-- The records with the given numbers, in their order; numbers without a record are passed over. -/
def load (library : Library) (ids : List Int) : Except Fault (List Record) :=
  let asked := portions ids
  if ids.all isStorable then
    .ok (ids.filterMap fun id => (library.entry? id).map (loadEntry asked))
  else .error .outOfRange

def addCollection (library : Library) (collection : Collection) : Except Fault Library := do
  requireStorable collection.id
  requireStorable collection.libraryId
  if library.hasCollection collection.id then
    throw (.constraint "UNIQUE constraint failed: collections.id")
  return library.putCollection collection

def storedFields (fields : List (String × Option String)) :
    Except Fault (List (String × String)) :=
  fields.mapM fun (name, value) =>
    match value with
    | some value => .ok (name, value)
    | none => .error (.constraint "NOT NULL constraint failed: fields.value")

def addRecord (library : Library) (record : Record) : Except Fault Library := do
  ([record.id, record.libraryId] ++ record.collections).forM requireStorable
  if (library.entry? record.id).isSome then
    throw (.constraint "UNIQUE constraint failed: records.id")
  if (library.entryOfKey? record.key).isSome then
    throw (.constraint "UNIQUE constraint failed: records.key")
  let fields <- storedFields record.fields
  if (distinct record.tags).length != record.tags.length then
    throw (.constraint "UNIQUE constraint failed: tags.record_id, tags.tag")
  if !record.collections.all library.hasCollection then
    throw (.constraint "FOREIGN KEY constraint failed")
  return library.putEntry {
    id := record.id
    key := record.key
    libraryId := record.libraryId
    itemType := record.itemType
    fields := sortFields fields
    creators := record.creators
    tags := record.tags
    collections := sortNumbers record.collections }

end Library

end BibEdit
