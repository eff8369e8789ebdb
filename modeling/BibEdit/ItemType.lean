set_option autoImplicit false

namespace BibEdit.ItemType

/-- The item types by name; the number of an item type is its place here, counted from one. -/
def names : List String := [
  "artwork", "attachment", "audioRecording", "bill", "blogPost", "book", "bookSection", "case",
  "computerProgram", "conferencePaper", "dataset", "dictionaryEntry", "document", "email",
  "encyclopediaArticle", "film", "forumPost", "hearing", "instantMessage", "interview",
  "journalArticle", "letter", "magazineArticle", "manuscript", "map", "newspaperArticle", "note",
  "patent", "podcast", "preprint", "presentation", "radioBroadcast", "report", "standard",
  "statute", "thesis", "tvBroadcast", "videoRecording", "webpage"]

def number? (name : String) : Option Nat := (names.idxOf? name).map (· + 1)

def name? (number : Int) : Option String :=
  if 1 <= number then names[number.toNat - 1]? else none

theorem name?_number? (name : String) (number : Nat) (found : number? name = some number) :
    name? number = some name := by
  obtain ⟨index, atIndex, rfl⟩ := Option.map_eq_some_iff.1 found
  have here := List.findIdx?_eq_some_iff_getElem.1 atIndex
  obtain ⟨within, same, _⟩ := here
  have positive : (1 : Int) <= ((index + 1 : Nat) : Int) := by omega
  simp only [name?, positive, if_true, Int.toNat_natCast, Nat.add_sub_cancel]
  rw [List.getElem?_eq_getElem within]
  simpa using same

end BibEdit.ItemType
