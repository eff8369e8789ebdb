import BibEdit.Unicode.CaseContext
import BibEdit.Unicode.LetterCase

set_option autoImplicit false

namespace BibEdit.Text

def upperChar (c : Char) : List Char :=
  match Unicode.longUpper.lookup c.toNat with
  | some codes => codes.map Char.ofNat
  | none => [Char.ofNat (Unicode.upper c.toNat)]

def upper (text : List Char) : List Char := text.flatMap upperChar

def meetsCased (text : List Char) : Bool :=
  (text.dropWhile fun c => Unicode.isCaseIgnorable c.toNat).head?.any fun c =>
    Unicode.isCasedLetter c.toNat

/-- The lower case of a character between what stands before it, backwards, and after it. A capital
sigma at the end of a word becomes a final sigma. -/
def lowerChar (before : List Char) (c : Char) (after : List Char) : List Char :=
  if c == 'Σ' then [if meetsCased before && !meetsCased after then 'ς' else 'σ']
  else if c == 'İ' then ['i', '\u0307']
  else [Char.ofNat (Unicode.lower c.toNat)]

def lowerFrom (before : List Char) : List Char -> List Char
  | [] => []
  | c :: after => lowerChar before c after ++ lowerFrom (c :: before) after

def lower (text : List Char) : List Char := lowerFrom [] text

end BibEdit.Text
