import BibEdit.Regex.Basic
import BibEdit.Unicode.Alphabetic
import BibEdit.Unicode.Ranges
import BibEdit.Unicode.LetterCase

set_option autoImplicit false

namespace BibEdit.Regex

def isAsciiWord (code : Nat) : Bool :=
  (0x30 <= code && code <= 0x39) || (0x41 <= code && code <= 0x5a) ||
    (0x61 <= code && code <= 0x7a) || code == 0x5f

def isWord (code : Nat) : Bool :=
  if code < 0x80 then isAsciiWord code else Unicode.isLetter code || Unicode.isNumeric code

def Class.has (ascii : Bool) (code : Nat) : Class -> Bool
  | .digit => if ascii then 0x30 <= code && code <= 0x39 else Unicode.isDecimal code
  | .space =>
    if ascii then (0x9 <= code && code <= 0xd) || code == 0x20 else Unicode.isBlank code
  | .word => if ascii then isAsciiWord code else isWord code

def Casing.lower : Casing -> Nat -> Nat
  | .exact, code => code
  | .ascii, code => Unicode.asciiLower code
  | .unicode, code => Unicode.lower code

def isAsciiLetter (code : Nat) : Bool :=
  (0x41 <= code && code <= 0x5a) || (0x61 <= code && code <= 0x7a)

def Casing.isCased : Casing -> Nat -> Bool
  | .exact, _ => false
  | .ascii, code => isAsciiLetter code
  | .unicode, code => Unicode.isCased code

/-- Other lower-case characters that compare equal to a lower-case character. -/
def Casing.variants : Casing -> Nat -> List Nat
  | .unicode, code => Unicode.variants code
  | _, _ => []

def Casing.same (casing : Casing) (letter code : Nat) : Bool :=
  if casing.isCased letter then
    let low := casing.lower letter
    casing.lower code == low || (casing.variants low).contains (casing.lower code)
  else code == letter

/-- Members past this code point are not spread over their case variants. -/
def planeLimit : Nat := 0xffff

def Casing.rangeIsCased : Casing -> Nat -> Nat -> Bool
  | .exact, _, _ => false
  | .ascii, low, high =>
    planeLimit < high || (low <= 0x5a && 0x41 <= high) || (low <= 0x7a && 0x61 <= high)
  | .unicode, low, high => planeLimit < high || Unicode.rangeIsCased low high

def Member.isCased (casing : Casing) : Member -> Bool
  | .single code => casing != .exact && (planeLimit < code || casing.isCased code)
  | .range low high => casing.rangeIsCased low high
  | .named _ _ => false

def Member.has (ascii : Bool) (code : Nat) : Member -> Bool
  | .single member => code == member
  | .range low high => low <= code && code <= high
  | .named negated cls => cls.has ascii code != negated

def Casing.sources : Casing -> Nat -> List Nat
  | .exact, code => [code]
  | .ascii, code =>
    if 0x61 <= code && code <= 0x7a then [code, code - 32]
    else if 0x41 <= code && code <= 0x5a then []
    else [code]
  | .unicode, code => Unicode.lowerSources code

def Member.hasLower (casing : Casing) (ascii : Bool) (code : Nat) : Member -> Bool
  | .single member =>
    if planeLimit < member then code == member
    else
      let low := casing.lower member
      code == low || (casing.variants low).contains code
  | .range low high =>
    (code :: casing.variants code).any (fun target =>
        (casing.sources target).any fun source => low <= source && source <= min high planeLimit)
      || (planeLimit < high &&
        ((low <= code && code <= high) ||
          (low <= Unicode.upper code && Unicode.upper code <= high)))
  | .named negated cls => cls.has ascii code != negated

def setHas (members : List Member) (casing : Casing) (ascii : Bool) (code : Nat) : Bool :=
  -- One cased member makes the whole set look at lower case.
  if members.any (·.isCased casing)
  then members.any (·.hasLower casing ascii (casing.lower code))
  else members.any (·.has ascii code)

end BibEdit.Regex
