import BibEdit.Creator
import BibEdit.Fault
import BibEdit.Json.Reader

set_option autoImplicit false

namespace BibEdit.Snapshot

def jsonChar (c : Char) : List Char :=
  if c == '"' then ['\\', '"']
  else if c == '\\' then ['\\', '\\']
  else if c == '\n' then ['\\', 'n']
  else if c == '\r' then ['\\', 'r']
  else if c == '\t' then ['\\', 't']
  else if c == '\x08' then ['\\', 'b']
  else if c == '\x0c' then ['\\', 'f']
  else if c.toNat < 0x20 then '\\' :: 'u' :: Text.hexText 4 c.toNat
  else [c]

def jsonString (text : List Char) : List Char := '"' :: text.flatMap jsonChar ++ ['"']

def entry (key : String) (value : String) : List Char :=
  jsonString key.toList ++ [':', ' '] ++ jsonString value.toList

def creatorObject (creator : Creator) : List Char :=
  '\x7b' :: Text.join [',', ' '] [
    entry "firstName" creator.firstName, entry "lastName" creator.lastName,
    entry "fullName" creator.fullName, entry "creatorType" creator.creatorType] ++ ['\x7d']

def write (creators : List Creator) : String :=
  String.ofList ('[' :: Text.join [',', ' '] (creators.map creatorObject) ++ [']'])

def part (entries : List (List Char × Json)) (key fallback : String) : Json :=
  match Json.get? entries key.toList with
  | some value => if value.isBlank then .string fallback.toList else value
  | none => .string fallback.toList

def creatorParts : Json -> Except SnapshotFlaw (CreatorOf Json)
  | .object entries => .ok {
      firstName := part entries "firstName" ""
      lastName := part entries "lastName" ""
      fullName := part entries "fullName" ""
      creatorType := part entries "creatorType" defaultCreatorType }
  | _ => .error .notObject

/-- What can be gone through item by item; the items of a text or an object are texts. -/
def itemsOf : Json -> Except SnapshotFlaw (List Json)
  | .array items => .ok items
  | .string value => .ok (value.map fun c => .string [c])
  | .object entries => .ok (entries.map fun entry => .string entry.1)
  | _ => .error .notIterable

def readParts (snapshot : String) : Except SnapshotFlaw (List (CreatorOf Json)) :=
  match Json.parse? snapshot.toList with
  | none => .error .notJson
  | some value => do (<- itemsOf value).mapM creatorParts

def text? : Json -> Except SnapshotFlaw String
  | .string value => .ok (String.ofList value)
  | _ => .error .notText

def creatorOf (parts : CreatorOf Json) : Except SnapshotFlaw Creator := do
  return {
    firstName := <- text? parts.firstName
    lastName := <- text? parts.lastName
    fullName := <- text? parts.fullName
    creatorType := <- text? parts.creatorType }

def read (snapshot : String) : Except SnapshotFlaw (List Creator) := do
  (<- readParts snapshot).mapM creatorOf

end BibEdit.Snapshot
