import BibEdit.Fault
import BibEdit.Regex.Match
import BibEdit.Text.Numeral

set_option autoImplicit false

namespace BibEdit

abbrev Replacer := List Char -> Regex.Match -> Except Fault (List Char)

inductive Replacement where
  | template (text : String)
  | computed (replacer : Replacer)

namespace Template

/-- A part of a template: text, or a placeholder as it is written and what it says. -/
inductive Part where
  | text (c : Char)
  | placeholder (written : List Char) (content : List Char)
  deriving DecidableEq

def numberedContent (after : List Char) : List Char := after.takeWhile Text.isDecimalDigit

def namedContent (after : List Char) : List Char :=
  match after with
  | '\x7b' :: rest =>
    let name := rest.takeWhile (· != '\x7d')
    if name.length < rest.length then name else []
  | _ => []

/-- Takes a template apart from left to right. A placeholder is a dollar sign with some content,
and `margin` characters besides. `skip` characters have been dealt with already. -/
def partsFrom (content : List Char -> List Char) (margin : Nat) : Nat -> List Char -> List Part
  | _, [] => []
  | skip + 1, _ :: rest => partsFrom content margin skip rest
  | 0, c :: rest =>
    -- A dollar sign without content is text like any other.
    if c == '$' && !(content rest).isEmpty then
      let width := (content rest).length + margin
      .placeholder (c :: rest.take width) (content rest) :: partsFrom content margin width rest
    else .text c :: partsFrom content margin 0 rest

def numberedParts (template : List Char) : List Part := partsFrom numberedContent 0 0 template

def namedParts (template : List Char) : List Part := partsFrom namedContent 2 0 template

def Part.isPlaceholder : Part -> Bool
  | .text _ => false
  | .placeholder _ _ => true

def hasNumbered (template : List Char) : Bool := (numberedParts template).any Part.isPlaceholder

def hasNamed (template : List Char) : Bool := (namedParts template).any Part.isPlaceholder

def has (sign template : List Char) : Bool := Text.contains sign template

def hasPlaceholders (template : List Char) : Bool :=
  hasNumbered template || has ['$', '\x7b'] template ||
    [['$', '&'], ['$', '\x27'], ['$', '\x60'], ['$', '+']].any fun sign => has sign template

def lastGroup (subject : List Char) (found : Regex.Match) : List Char :=
  ((found.groupTexts subject).reverse.findSome? fun group => group).getD (found.text subject)

def group? (groups : List (Option (List Char))) (number : Nat) : Option (List Char) :=
  if number = 0 then none else (groups[number - 1]?).join

/-- A numbered placeholder without a group stays as it is. -/
def fillNumbered (groups : List (Option (List Char))) : List Part -> Except Fault (List Char)
  | [] => .ok []
  | .text c :: rest => do return c :: (<- fillNumbered groups rest)
  | .placeholder written digits :: rest => do
    match Text.runValue digits with
    | .error numeral => throw (.longNumeral numeral)
    | .ok number => return (group? groups number).getD written ++ (<- fillNumbered groups rest)

/-- Every named placeholder stands for the same text. -/
def fillNamed (value : List Char) : List Part -> List Char
  | [] => []
  | .text c :: rest => c :: fillNamed value rest
  | .placeholder _ _ :: rest => value ++ fillNamed value rest

/-- The first kind of placeholder in the template decides what it gives. -/
def replacer (template : List Char) : Replacer := fun subject found =>
  if !hasPlaceholders template then .ok template
  else if has ['$', '&'] template then .ok (found.text subject)
  else if has ['$', '\x27'] template then .ok (subject.drop found.stop)
  else if has ['$', '\x60'] template then .ok (subject.take found.start)
  else if has ['$', '+'] template then .ok (lastGroup subject found)
  else if hasNumbered template then
    fillNumbered (found.groupTexts subject) (numberedParts template)
  else if hasNamed template then
    match group? (found.groupTexts subject) 2 with
    | some second => .ok (fillNamed second (namedParts template))
    | none => .ok template
  else .ok template

end Template

def Replacement.replacer : Replacement -> Replacer
  | .template text => Template.replacer text.toList
  | .computed replacer => replacer

end BibEdit
