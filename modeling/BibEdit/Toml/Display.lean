import BibEdit.Decimal.Digits
import BibEdit.Text.Numeral
import BibEdit.Toml.Value

set_option autoImplicit false

namespace BibEdit.Toml

def padded (width number : Nat) : List Char :=
  let digits := (toString number).toList
  List.replicate (width - digits.length) '0' ++ digits

namespace Date

def iso (date : Date) : List Char :=
  padded 4 date.year ++ '-' :: padded 2 date.month ++ '-' :: padded 2 date.day

def arguments (date : Date) : List Nat := [date.year, date.month, date.day]

end Date

namespace Time

def iso (time : Time) : List Char :=
  padded 2 time.hour ++ ':' :: padded 2 time.minute ++ ':' :: padded 2 time.second ++
    (if time.micro == 0 then [] else '.' :: padded 6 time.micro)

/-- Seconds that are zero are left out, and so are their fractions. -/
def arguments (time : Time) : List Nat :=
  [time.hour, time.minute] ++
    (if time.micro != 0 then [time.second, time.micro]
    else if time.second != 0 then [time.second] else [])

end Time

def offsetIso (offset : Int) : List Char :=
  (if offset < 0 then '-' else '+') ::
    padded 2 (offset.natAbs / 60) ++ ':' :: padded 2 (offset.natAbs % 60)

def momentIso (date : Date) (time : Time) (offset : Option Int) : List Char :=
  date.iso ++ ' ' :: time.iso ++ (offset.map offsetIso).getD []

def call (name : String) (arguments : List (List Char)) : List Char :=
  name.toList ++ '(' :: Text.join [',', ' '] arguments ++ [')']

def numbers (arguments : List Nat) : List (List Char) :=
  arguments.map fun number => (toString number).toList

def spanCall (minutes : Int) : List Char :=
  let days := minutes.fdiv 1440
  let seconds := minutes.fmod 1440 * 60
  call "datetime.timedelta"
    ((if days == 0 then [] else ["days=".toList ++ (toString days).toList]) ++
      (if seconds == 0 then [] else ["seconds=".toList ++ (toString seconds).toList]))

def zone (offset : Int) : List Char :=
  if offset == 0 then "datetime.timezone.utc".toList else call "datetime.timezone" [spanCall offset]

def momentCall (date : Date) (time : Time) (offset : Option Int) : List Char :=
  call "datetime.datetime" (numbers (date.arguments ++ time.arguments) ++
    (offset.map fun offset => "tzinfo=".toList ++ zone offset).toList)

/-- Doubles are shown without an exponent up to sixteen digits before the point. -/
def floatLayout : Decimal.Layout := ⟨16, false⟩

def floatText : Binary64 -> List Char
  | .nan => "nan".toList
  | .infinite negative => if negative then "-inf".toList else "inf".toList
  | .finite negative mantissa exponent =>
    (if negative then ['-'] else []) ++
      (if mantissa == 0 then "0.0".toList
      else floatLayout.write (Decimal.shortest mantissa exponent))

namespace Value

mutual

def inspect : Value -> List Char
  | string text => Text.quoted text.toList
  | integer number => (toString number).toList
  | float number => floatText number
  | boolean truth => if truth then "True".toList else "False".toList
  | date day => call "datetime.date" (numbers day.arguments)
  | time clock => call "datetime.time" (numbers clock.arguments)
  | moment day clock offset => momentCall day clock offset
  | array items => '[' :: Text.join [',', ' '] (inspectItems items) ++ [']']
  | table entries => '\x7b' :: Text.join [',', ' '] (inspectEntries entries) ++ ['\x7d']

def inspectItems : List Value -> List (List Char)
  | [] => []
  | item :: rest => inspect item :: inspectItems rest

def inspectEntries : List (String × Value) -> List (List Char)
  | [] => []
  | (key, value) :: rest =>
    (Text.quoted key.toList ++ ':' :: ' ' :: inspect value) :: inspectEntries rest

end

def display : Value -> List Char
  | string text => text.toList
  | date day => day.iso
  | time clock => clock.iso
  | moment day clock offset => momentIso day clock offset
  | value => inspect value

mutual

/-- Whether all the integers in a value are short enough to be written. -/
def isWritable : Value -> Bool
  | integer number => number.natAbs < Nat.pow 10 Text.numeralLimit
  | array items => itemsWritable items
  | table entries => entriesWritable entries
  | _ => true

def itemsWritable : List Value -> Bool
  | [] => true
  | item :: rest => isWritable item && itemsWritable rest

def entriesWritable : List (String × Value) -> Bool
  | [] => true
  | (_, value) :: rest => isWritable value && entriesWritable rest

end

def shown (value : Value) : Except Text.LongNumeral (List Char) :=
  if value.isWritable then .ok value.display else .error ⟨none⟩

end Value

end BibEdit.Toml
