set_option autoImplicit false

namespace BibEdit

/-- A JSON value. Of a number that is no integer only its being zero is kept. -/
inductive Json where
  | null
  | boolean (value : Bool)
  | integer (value : Int)
  | real (isZero : Bool)
  | string (value : List Char)
  | array (items : List Json)
  | object (entries : List (List Char × Json))

namespace Json

/-- Whether a value stands for nothing, so that a default takes its place. -/
def isBlank : Json -> Bool
  | null => true
  | boolean value => !value
  | integer value => value == 0
  | real isZero => isZero
  | string value => value.isEmpty
  | array items => items.isEmpty
  | object entries => entries.isEmpty

/-- The last of the entries with a key counts. -/
def get? (entries : List (List Char × Json)) (key : List Char) : Option Json :=
  entries.reverse.lookup key

end Json

end BibEdit
