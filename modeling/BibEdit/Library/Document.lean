import BibEdit.Creator
import BibEdit.Field
import BibEdit.ItemType
import BibEdit.Text.Numeral
import BibEdit.Toml.Display

set_option autoImplicit false

namespace BibEdit.Library

inductive Refusal where
  | missing (key : String)
  | wrongShape
  | rule (text : String)
  deriving DecidableEq

def Refusal.message : Refusal -> String
  | missing key => String.ofList (Text.quoted key.toList)
  | wrongShape => ""
  | rule text => text

structure ListedCollection where
  id : Int
  name : String
  libraryId : Int
  deriving DecidableEq

/-- A record as a document lists it. The parts of its creators may be of any type; its collections
are integers, as they were written. -/
structure ListedRecord where
  key : String
  libraryId : Int
  itemType : Option String
  fields : List (String × String)
  creators : List (CreatorOf Toml.Value)
  tags : List String
  collections : List Toml.Value

structure Listing where
  collections : List ListedCollection
  records : List ListedRecord

namespace Document

abbrev Checked := Except Refusal

def fail {α : Type} (text : String) : Checked α := .error (.rule text)

def demand {α : Type} (text : String) : Option α -> Checked α
  | some value => .ok value
  | none => fail text

def itemsOf (value : Toml.Value) : Checked (List Toml.Value) :=
  match value.items? with
  | some items => .ok items
  | none => .error .wrongShape

def tableOf (value : Toml.Value) : Checked Toml.Table :=
  match value.table? with
  | some table => .ok table
  | none => .error .wrongShape

def required (table : Toml.Table) (key : String) : Checked Toml.Value :=
  match table.lookup key with
  | some value => .ok value
  | none => .error (.missing key)

def itemsAt (table : Toml.Table) (key : String) : Checked (List Toml.Value) :=
  match table.lookup key with
  | some value => itemsOf value
  | none => .ok []

def defaultLibrary : Toml.Value := .integer 1

def libraryValue (table : Toml.Table) : Toml.Value :=
  (table.lookup "library_id").getD defaultLibrary

def collection (value : Toml.Value) : Checked ListedCollection := do
  let table <- tableOf value
  let id <- required table "id"
  let name <- required table "name"
  match id.integer?, (libraryValue table).integer? with
  | some id, some libraryId =>
    return ⟨id, <- demand "name must be a string" name.string?, libraryId⟩
  | _, _ => fail "id and library_id must be integers"

def itemTypeRule (value : Toml.Value) : String :=
  match value.shown with
  | .ok text =>
    "item_type must be one of " ++ ", ".intercalate ItemType.names ++ ": got " ++
      String.ofList text
  | .error numeral => numeral.message

def itemType (table : Toml.Table) : Checked (Option String) :=
  match table.lookup "item_type" with
  | none => .ok none
  | some value =>
    match value.string?.filter ItemType.names.contains with
    | some name => .ok (some name)
    | none => fail (itemTypeRule value)

def field (entry : String × Toml.Value) : Checked (String × String) :=
  if !Field.isScalarName entry.1 then fail ("unknown field " ++ entry.1)
  else
    (demand ("field " ++ entry.1 ++ " must be a string") entry.2.string?).map fun text =>
      (entry.1, text)

def fields (table : Toml.Table) : Checked (List (String × String)) := do
  match table.lookup "fields" with
  | none => return []
  | some value => (<- tableOf value).mapM field

/-- A part of a creator; a blank one takes its default. -/
def part (table : Toml.Table) (key fallback : String) : Toml.Value :=
  match table.lookup key with
  | some value => if value.isBlank then .string fallback else value
  | none => .string fallback

def creator (value : Toml.Value) : Checked (CreatorOf Toml.Value) := do
  let table <- tableOf value
  return {
    firstName := part table "firstName" ""
    lastName := part table "lastName" ""
    fullName := part table "fullName" ""
    creatorType := part table "creatorType" defaultCreatorType }

def record (value : Toml.Value) : Checked ListedRecord := do
  let table <- tableOf value
  let key <- required table "key"
  let key <- demand "key must be a non-empty string" (key.string?.filter (· != ""))
  let libraryId <- demand "library_id must be an integer" (libraryValue table).integer?
  let itemType <- itemType table
  let fields <- fields table
  let creators <- (<- itemsAt table "creators").mapM creator
  let tags <- demand "tags must be strings" ((<- itemsAt table "tags").mapM Toml.Value.string?)
  let collections <- itemsAt table "collections"
  if collections.all fun value => value.integer?.isSome then
    return ⟨key, libraryId, itemType, fields, creators, tags, collections⟩
  else fail "collections must be collection IDs"

/-- Why a document is refused: what it lists is no list, or an item is at fault. -/
inductive Error where
  | notListed
  | collection (index : Nat) (refusal : Refusal)
  | record (index : Nat) (refusal : Refusal)
  deriving DecidableEq

def listed (document : Toml.Table) (key : String) : Except Error (List Toml.Value) :=
  match document.lookup key with
  | none => .ok []
  | some value =>
    match value.items? with
    | some items => .ok items
    | none => .error .notListed

def checkAll {α : Type} (check : Toml.Value -> Checked α) (error : Nat -> Refusal -> Error) :
    Nat -> List Toml.Value -> Except Error (List α)
  | _, [] => .ok []
  | index, item :: rest =>
    match check item with
    | .error refusal => .error (error index refusal)
    | .ok value => do return value :: (<- checkAll check error (index + 1) rest)

def listing (document : Toml.Table) : Except Error Listing := do
  let collections <- listed document "collections"
  let collections <- checkAll collection .collection 0 collections
  let records <- listed document "records"
  return ⟨collections, <- checkAll record .record 0 records⟩

end Document

end BibEdit.Library
