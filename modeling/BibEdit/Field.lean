import BibEdit.Creator

set_option autoImplicit false

namespace BibEdit

inductive Field where
  | scalar (name : String)
  | creator (part : NamePart)
  | tags
  | itemType
  | collection
  | unknown (name : String)
  deriving DecidableEq

namespace Field

def scalarNames : List String := [
  "title", "shortTitle", "abstractNote", "date", "dateAdded", "dateModified", "accessDate",
  "publicationTitle", "bookTitle", "proceedingsTitle", "websiteTitle", "blogTitle", "seriesTitle",
  "series", "journalAbbreviation", "publisher", "place", "edition", "volume", "issue", "pages",
  "numPages", "language", "DOI", "ISBN", "ISSN", "url", "callNumber", "archive",
  "archiveLocation", "libraryCatalog", "rights", "extra", "note", "university", "institution",
  "thesisType", "reportType", "reportNumber", "websiteType", "manuscriptType", "letterType",
  "presentationType"]

def isScalarName (name : String) : Bool := scalarNames.contains name

def dateNames : List String := ["date", "dateAdded", "dateModified", "accessDate"]

def creatorId (part : NamePart) : String := "creator." ++ part.id

def creatorPart? (id : String) : Option NamePart := NamePart.all.find? fun part => creatorId part == id

def parse (id : String) : Field :=
  if isScalarName id then scalar id
  else
    match creatorPart? id with
    | some part => creator part
    | none =>
      if id == "tags" then tags
      else if id == "itemType" then itemType
      else if id == "collection" then collection
      else unknown id

def id : Field -> String
  | scalar name => name
  | creator part => creatorId part
  | tags => "tags"
  | itemType => "itemType"
  | collection => "collection"
  | unknown name => name

def isDate : Field -> Bool
  | scalar name => dateNames.contains name
  | _ => false

end Field

end BibEdit
