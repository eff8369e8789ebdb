import BibEdit.Library.Basic
import BibEdit.Toml.Value

set_option autoImplicit false

namespace BibEdit.Library

def collectionTable (collection : Collection) : Toml.Value :=
  .table [("id", .integer collection.id), ("name", .string collection.name),
    ("library_id", .integer collection.libraryId)]

def creatorTable (creator : Creator) : Toml.Value :=
  .table [("firstName", .string creator.firstName), ("lastName", .string creator.lastName),
    ("fullName", .string creator.fullName), ("creatorType", .string creator.creatorType)]

def itemTypeEntry (itemType : Option String) : Toml.Table :=
  match itemType with
  | some name => if name == "" then [] else [("item_type", .string name)]
  | none => []

def fieldEntry (field : String × Option String) : String × Toml.Value :=
  (field.1, .string (field.2.getD ""))

def recordTable (record : Record) : Toml.Value :=
  .table ([("key", .string record.key), ("library_id", .integer record.libraryId)] ++
    itemTypeEntry record.itemType ++
    [("tags", .array (record.tags.map .string)),
      ("collections", .array (record.collections.map .integer)),
      ("fields", .table (record.fields.map fieldEntry)),
      ("creators", .array (record.creators.map creatorTable))])

def collectionsIn (library : Library) (libraryId : Option Int) : List Collection :=
  library.collections.filter fun collection => libraryId.all (collection.libraryId == ·)

def document (library : Library) (libraryId : Option Int) : Except Fault Toml.Table := do
  let records <- library.load (<- library.list libraryId)
  return [("collections", .array ((library.collectionsIn libraryId).map collectionTable)),
    ("records", .array (records.map recordTable))]

def exportText [Toml.Writer] (library : Library) (libraryId : Option Int) : Except Fault String :=
  (library.document libraryId).map Toml.Writer.write

end BibEdit.Library
