import BibEdit.Replacement
import BibEdit.Text.Case

set_option autoImplicit false

/-! Replacers that compute what they put in from the match. -/

namespace BibEdit.Replacer

def ofText (edit : List Char -> List Char) : Replacer := fun subject found =>
  .ok (edit (found.text subject))

def upper : Replacer := ofText Text.upper

def lower : Replacer := ofText Text.lower

def bracket : Replacer := ofText fun text => '[' :: text ++ [']']

def reverse : Replacer := ofText List.reverse

def span : Replacer := fun _ found =>
  .ok ((toString found.start).toList ++ '-' :: (toString found.stop).toList)

def groups : Replacer := fun subject found =>
  .ok (Text.join ['|'] ((found.groupTexts subject).map fun group => group.getD ['-']))

def failing (message : String) : Replacer := fun _ _ => .error (.failure message)

end BibEdit.Replacer
