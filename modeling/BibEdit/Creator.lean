import BibEdit.Text.Basic

set_option autoImplicit false

namespace BibEdit

/-- The parts of a creator, of any type: read from a document they need not be texts yet. -/
structure CreatorOf (α : Type) where
  firstName : α
  lastName : α
  fullName : α
  creatorType : α
  deriving DecidableEq

abbrev Creator := CreatorOf String

inductive NamePart where
  | firstName
  | lastName
  | fullName
  deriving DecidableEq

def NamePart.id : NamePart -> String
  | firstName => "firstName"
  | lastName => "lastName"
  | fullName => "fullName"

def NamePart.all : List NamePart := [firstName, lastName, fullName]

def NamePart.ofId? (id : String) : Option NamePart := all.find? fun part => part.id == id

def defaultCreatorType : String := "author"

def CreatorOf.map {α β : Type} (f : α -> β) (creator : CreatorOf α) : CreatorOf β where
  firstName := f creator.firstName
  lastName := f creator.lastName
  fullName := f creator.fullName
  creatorType := f creator.creatorType

namespace Creator

def ofParts (first last full type : Option String) : Creator where
  firstName := first.getD ""
  lastName := last.getD ""
  fullName := full.getD ""
  creatorType := (type.filter (· != "")).getD defaultCreatorType

def displayName (creator : Creator) : String :=
  if creator.fullName != "" then creator.fullName
  else String.ofList (Text.trim (creator.firstName.toList ++ ' ' :: creator.lastName.toList))

def get (creator : Creator) : NamePart -> String
  | .firstName => creator.firstName
  | .lastName => creator.lastName
  | .fullName => creator.displayName

def set (creator : Creator) (part : NamePart) (value : String) : Creator :=
  match part with
  | .firstName => { creator with firstName := value }
  | .lastName => { creator with lastName := value }
  | .fullName => { creator with fullName := value }

@[simp] theorem get_set_firstName (creator : Creator) (value : String) :
    (creator.set .firstName value).get .firstName = value := rfl

@[simp] theorem get_set_lastName (creator : Creator) (value : String) :
    (creator.set .lastName value).get .lastName = value := rfl

theorem get_set_fullName (creator : Creator) (value : String) (present : value ≠ "") :
    (creator.set .fullName value).get .fullName = value := by
  simp [set, get, displayName, present]

end Creator

end BibEdit
