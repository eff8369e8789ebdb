import BibEdit.Regex.Token

set_option autoImplicit false

namespace BibEdit.Wildcard

inductive Part where
  | letter (c : Char)
  | one
  | many
  deriving DecidableEq

/-- LIKE: a backslash makes the next character stand for itself; at the end it stands for itself. -/
def likeParts : List Char -> List Part
  | [] => []
  | ['\\'] => [.letter '\\']
  | '\\' :: c :: rest => .letter c :: likeParts rest
  | '%' :: rest => .many :: likeParts rest
  | '_' :: rest => .one :: likeParts rest
  | c :: rest => .letter c :: likeParts rest

def globParts (pattern : List Char) : List Part :=
  pattern.map fun c => if c == '*' then .many else if c == '?' then .one else .letter c

def Part.regex : Part -> List Char
  | .letter c => Regex.escapeChar c
  | .one => ['.']
  | .many => ['.', '*']

def likeRegex (pattern : List Char) : List Char := (likeParts pattern).flatMap Part.regex

/-- GLOB covers the whole text. -/
def globRegex (pattern : List Char) : List Char :=
  '^' :: (globParts pattern).flatMap Part.regex ++ ['$']

end BibEdit.Wildcard
