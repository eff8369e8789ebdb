import BibEdit.Text.Basic
import BibEdit.Unicode.Ranges
import BibEdit.Unicode.Printable

set_option autoImplicit false

namespace BibEdit.Text

def numeralLimit : Nat := 4300

/-- A numeral past the limit. Of one that was read, and not to be written, its digits are counted. -/
structure LongNumeral where
  digits : Option Nat
  deriving DecidableEq

def LongNumeral.message (numeral : LongNumeral) : String :=
  "Exceeds the limit (" ++ toString numeralLimit ++ " digits) for integer string conversion" ++
    (match numeral.digits with
    | some digits => ": value has " ++ toString digits ++ " digits"
    | none => "") ++
    "; use sys.set_int_max_str_digits() to increase the limit"

def digitsValue (digits : List Nat) : Nat := digits.foldl (fun value digit => 10 * value + digit) 0

def groupedDigits? : List Char -> Option (List Nat)
  | [] => none
  | [c] => (Unicode.decimal? c.toNat).map ([·])
  | c :: '_' :: rest => do return (<- Unicode.decimal? c.toNat) :: (<- groupedDigits? rest)
  | c :: d :: rest => do return (<- Unicode.decimal? c.toNat) :: (<- groupedDigits? (d :: rest))

def natural? (text : List Char) : Option Nat := do
  let digits <- groupedDigits? text
  if digits.length <= numeralLimit then some (digitsValue digits) else none

def integer? : List Char -> Option Int
  | '+' :: digits => (natural? digits).map Int.ofNat
  | '-' :: digits => (natural? digits).map fun n => -(n : Int)
  | digits => (natural? digits).map Int.ofNat

def isAsciiBlank (c : Char) : Bool :=
  c == ' ' || ('\t' <= c && c <= '\r')

-- The information separators are white space elsewhere, but spoil a number.
def isNumeralBlank (c : Char) : Bool :=
  isAsciiBlank c || (0x80 <= c.toNat && Unicode.isBlank c.toNat)

def wholeNumber? (text : List Char) : Option Int := integer? (trimWith isNumeralBlank text)

/-- The value of a run of decimal digits of any script, up to the limit. -/
def runValue (digits : List Char) : Except LongNumeral Nat :=
  if digits.length <= numeralLimit
  then .ok (digitsValue (digits.filterMap fun c => Unicode.decimal? c.toNat))
  else .error ⟨some digits.length⟩

def isDecimalDigit (c : Char) : Bool := Unicode.isDecimal c.toNat

def isAsciiDigit (c : Char) : Bool := '0' <= c && c <= '9'

def hexDigit? (c : Char) : Option Nat :=
  if '0' <= c && c <= '9' then some (c.toNat - 48)
  else if 'a' <= c && c <= 'f' then some (c.toNat - 87)
  else if 'A' <= c && c <= 'F' then some (c.toNat - 55)
  else none

def isHexDigit (c : Char) : Bool := (hexDigit? c).isSome

def isOctalDigit (c : Char) : Bool := '0' <= c && c <= '7'

def radixValue (radix : Nat) (digits : List Char) : Nat :=
  digits.foldl (fun value c => radix * value + (hexDigit? c).getD 0) 0

def hexDigitChar (n : Nat) : Char := if n < 10 then Char.ofNat (48 + n) else Char.ofNat (87 + n)

def hexText : Nat -> Nat -> List Char
  | 0, _ => []
  | width + 1, n => hexText width (n / 16) ++ [hexDigitChar (n % 16)]

@[simp] theorem hexText_length (width n : Nat) : (hexText width n).length = width := by
  induction width generalizing n with
  | zero => rfl
  | succ width ih => simp [hexText, ih]

def quotedChar (quote c : Char) : List Char :=
  if c == quote || c == '\\' then ['\\', c]
  else if c == '\t' then ['\\', 't']
  else if c == '\n' then ['\\', 'n']
  else if c == '\r' then ['\\', 'r']
  else if Unicode.isPrintable c.toNat then [c]
  else if c.toNat < 0x100 then '\\' :: 'x' :: hexText 2 c.toNat
  else if c.toNat < 0x10000 then '\\' :: 'u' :: hexText 4 c.toNat
  else '\\' :: 'U' :: hexText 8 c.toNat

/-- Single quotes, unless the text holds single quotes alone. -/
def quoteFor (text : List Char) : Char :=
  if text.contains '\'' && !text.contains '"' then '"' else '\''

/-- The text between quotes, with everything that does not print written as an escape. -/
def quoted (text : List Char) : List Char :=
  let quote := quoteFor text
  quote :: text.flatMap (quotedChar quote) ++ [quote]

end BibEdit.Text
