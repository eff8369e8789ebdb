import BibEdit.Decimal.Digits
import BibEdit.Library.Basic
import BibEdit.Library.Document
import BibEdit.Toml.Reader

set_option autoImplicit false

namespace BibEdit.Library

inductive ImportError where
  | noFile (path : String)
  | undecodable (path : String)
  | longNumeral (numeral : Text.LongNumeral)
  | document (path : String) (error : Document.Error)
  | unknownCollection (path key : String) (collection : Toml.Value)
  | fault (fault : Fault)

def refusalMessage (path what : String) (index : Nat) (refusal : Refusal) : String :=
  "Invalid " ++ what ++ " at index " ++ toString index ++ " in " ++ path ++ ": " ++ refusal.message

def ImportError.message : ImportError -> String
  | noFile path => "Record file not found (" ++ path ++ ")"
  | undecodable path => "Failed to decode record file " ++ path ++ ": invalid TOML: "
  | longNumeral numeral => numeral.message
  | document _ .notListed => SnapshotFlaw.notIterable.message
  | document path (.collection index refusal) => refusalMessage path "collection" index refusal
  | document path (.record index refusal) => refusalMessage path "record" index refusal
  | unknownCollection path key collection =>
    "Record " ++ key ++ " in " ++ path ++ " belongs to unknown collection " ++
      String.ofList collection.display
  | fault cause => cause.message

/-- A collection that cannot be named in a message is a fault of its own. -/
def unknownError (path key : String) (collection : Toml.Value) : ImportError :=
  match collection.shown with
  | .ok _ => .unknownCollection path key collection
  | .error numeral => .longNumeral numeral

/-- Doubles are stored with fifteen digits, always with a point. -/
def storedLayout : Decimal.Layout := ⟨15, true⟩

def storedFloat : Binary64 -> Option String
  | .nan => none
  | .infinite negative => some (if negative then "-Inf" else "Inf")
  | .finite negative mantissa exponent =>
    let digits := if mantissa == 0 then "0.0".toList
      else storedLayout.write (Decimal.rounded 15 mantissa exponent)
    some (String.ofList (if negative then '-' :: digits else digits))

/-- A value as a column of texts takes it; nothing if it is no value there. -/
def storedText : Toml.Value -> Except Fault (Option String)
  | .string text => .ok (some text)
  | .integer number => do
    requireStorable number
    return some (toString number)
  | .boolean truth => .ok (some (if truth then "1" else "0"))
  | .float number => .ok (storedFloat number)
  | .date date => .ok (some (String.ofList date.iso))
  | .moment date time offset => .ok (some (String.ofList (Toml.momentIso date time offset)))
  | .time _ | .array _ | .table _ => .error .unbindable

def present (column : String) : Option String -> Except Fault String
  | some text => .ok text
  | none => .error (.constraint ("NOT NULL constraint failed: creators." ++ column))

/-- The parts of a creator as texts: all of them are looked at before one that is missing counts. -/
def storedCreator (parts : CreatorOf Toml.Value) : Except Fault Creator := do
  let first <- storedText parts.firstName
  let last <- storedText parts.lastName
  let full <- storedText parts.fullName
  let type <- storedText parts.creatorType
  return {
    firstName := <- present "first_name" first
    lastName := <- present "last_name" last
    fullName := <- present "full_name" full
    creatorType := <- present "creator_type" type }

def importCollection (library : Library) (listed : ListedCollection) : Except Fault Library := do
  requireStorable listed.id
  requireStorable listed.libraryId
  return library.putCollection ⟨listed.id, listed.name, listed.libraryId⟩

def unknownAmong (library : Library) (collections : List Toml.Value) : Option Toml.Value :=
  collections.find? fun value => !value.integer?.any library.hasCollection

def fullMessage : String := "database or disk is full"

def idFor (library : Library) (key : String) : Except Fault Int :=
  match library.entryOfKey? key with
  | some entry => .ok entry.id
  | none =>
    if isStorable library.nextId then .ok library.nextId else .error (.device fullMessage)

def entryFor (library : Library) (listed : ListedRecord) : Except Fault Entry := do
  requireStorable listed.libraryId
  let id <- library.idFor listed.key
  let creators <- listed.creators.mapM storedCreator
  return {
    id := id
    key := listed.key
    libraryId := listed.libraryId
    itemType := listed.itemType
    fields := sortFields listed.fields
    creators := creators
    tags := distinct listed.tags
    collections := sortNumbers (listed.collections.filterMap Toml.Value.integer?) }

def importRecord (path : String) (library : Library) (listed : ListedRecord) :
    Except ImportError Library :=
  match library.unknownAmong listed.collections with
  | some collection => .error (unknownError path listed.key collection)
  | none =>
    ((library.entryFor listed).map library.putEntry).mapError .fault

def importListing (path : String) (library : Library) (listing : Listing) :
    Except ImportError Library := do
  -- Records may belong to collections of the same file.
  let library <- (listing.collections.foldlM importCollection library).mapError .fault
  listing.records.foldlM (importRecord path) library

def readListing (path : String) : Option String -> Except ImportError Listing
  | none => .error (.noFile path)
  | some text =>
    match Toml.parse text with
    | .error .malformed => .error (.undecodable path)
    | .error (.longNumeral numeral) => .error (.longNumeral numeral)
    | .ok document => (Document.listing document).mapError (.document path)

/-- Imports a file, all of it or nothing: how many records there were, and the library after. -/
def importFile (library : Library) (path : String) (content : Option String) :
    Except ImportError Nat × Library :=
  match readListing path content with
  | .error error => (.error error, library)
  | .ok listing =>
    match importListing path library listing with
    | .error error => (.error error, library)
    | .ok after => (.ok listing.records.length, after)

end BibEdit.Library
