import BibEdit.Library.Basic
import BibEdit.Search
import BibEdit.Text.Numeral
import BibEdit.Unicode.CaseFold

set_option autoImplicit false

namespace BibEdit.Library

def folded (text : String) : List Char := Unicode.fold text.toList

def holds (term text : String) : Bool := Text.contains (folded term) (folded text)

def equals (term text : String) : Bool := folded text == folded term

/-- All tests but the one for equality look for a part. -/
def passes (test : ProbeTest) (term text : String) : Bool :=
  if test == .is then equals term text else holds term text

def creatorHolds (term : String) (creator : Creator) : Bool :=
  [creator.firstName, creator.lastName, creator.fullName].any (holds term)

/-- What a probe asks of an entry; nothing if no entry can answer. -/
def question (probe : Probe) : Except Fault (Option (Entry -> Bool)) :=
  if probe.field == "creator" && probe.test == .contains then
    .ok (some fun entry => entry.creators.any (creatorHolds probe.term))
  else if probe.field == "tag" && probe.test == .contains then
    .ok (some fun entry => entry.tags.any (holds probe.term))
  else if probe.field == "collection" && probe.test == .is then
    match Text.wholeNumber? probe.term.toList with
    | none => .ok none
    | some id => do
      requireStorable id
      return some fun entry => entry.collections.contains id
  else if probe.field == "itemType" then
    .ok (some fun entry => entry.itemType.any (passes probe.test probe.term))
  else if Field.isScalarName probe.field then
    .ok (some fun entry => (entry.fields.lookup probe.field).any (passes probe.test probe.term))
  else .error (.noProbe probe.field probe.test.name)

def query (library : Library) (probe : Probe) (libraryId : Option Int) :
    Except Fault (List Int) := do
  match <- question probe with
  | none => return []
  | some answers =>
    requireScope libraryId
    return ((library.entries.filter answers).filter (inScope libraryId)).map Entry.id

def store (library : Library) : Store Record where
  query := library.query
  list := library.list
  load := library.load

end BibEdit.Library
