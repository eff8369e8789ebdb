import BibEdit.Text.Numeral
import BibEdit.Toml.Draft

set_option autoImplicit false

namespace BibEdit.Toml

inductive Flaw where
  | malformed
  | longNumeral (numeral : Text.LongNumeral)
  deriving DecidableEq

abbrev Reader := StateT (List Char) (Except Flaw)

namespace Reader

def malformed {α : Type} : Reader α := throw .malformed

def need {α : Type} : Option α -> Reader α
  | some value => pure value
  | none => malformed

def takeWhile (test : Char -> Bool) : Reader (List Char) := do
  let text <- get
  set (text.dropWhile test)
  return text.takeWhile test

def skipWhile (test : Char -> Bool) : Reader Unit := modify fun text => text.dropWhile test

def accept (word : List Char) : Reader Bool := do
  match word.isPrefixOf? (<- get) with
  | some rest => do
    set rest
    return true
  | none => return false

def expect (word : List Char) : Reader Unit := do
  if !(<- accept word) then malformed

def peek : Reader (Option Char) := return (<- get).head?

def isBlank (c : Char) : Bool := c == ' ' || c == '\t'

def isBlankOrBreak (c : Char) : Bool := isBlank c || c == '\n'

def isControl (c : Char) : Bool := c.toNat < 0x20 || c.toNat == 0x7f

def isForbidden (c : Char) : Bool := isControl c && c != '\t'

def isForbiddenInBlock (c : Char) : Bool := isForbidden c && c != '\n'

def skipComment : Reader Unit := do
  if <- accept ['#'] then
    let comment <- takeWhile (· != '\n')
    if comment.any isForbidden then malformed

def skipFiller : Nat -> Reader Unit
  | 0 => malformed
  | fuel + 1 => do
    skipWhile isBlankOrBreak
    if (<- peek) == some '#' then
      skipComment
      skipFiller fuel

def simpleEscape? : Char -> Option Char
  | 'b' => some '\x08'
  | 't' => some '\t'
  | 'n' => some '\n'
  | 'f' => some '\x0c'
  | 'r' => some '\r'
  | '"' => some '"'
  | '\\' => some '\\'
  | _ => none

def isScalar (code : Nat) : Bool := code <= 0xd7ff || (0xe000 <= code && code <= 0x10ffff)

def hexEscape (width : Nat) : Reader (List Char) := do
  let digits := (<- get).take width
  let code := Text.radixValue 16 digits
  if digits.length == width && digits.all Text.isHexDigit && isScalar code then
    modify fun text => text.drop width
    return [Char.ofNat code]
  else malformed

/-- What follows a backslash. In a block a line may end there, and the blanks around the break go. -/
def escape (block : Bool) : Reader (List Char) := do
  match <- get with
  | [] => malformed
  | c :: rest =>
    if block && isBlankOrBreak c then
      match rest.dropWhile isBlank with
      | after =>
        if c == '\n' then
          set (rest.dropWhile isBlankOrBreak)
          return []
        else if after.isEmpty then
          set after
          return []
        else if after.head? == some '\n' then
          set (after.dropWhile isBlankOrBreak)
          return []
        else malformed
    else
      set rest
      if c == 'u' then hexEscape 4
      else if c == 'U' then hexEscape 8
      else return [<- need (simpleEscape? c)]

/-- The rest of a string in double quotes; `read` holds what was read, backwards. -/
def basicRest (block : Bool) : Nat -> List Char -> Reader (List Char)
  | 0, _ => malformed
  | fuel + 1, read => do
    match <- get with
    | [] => malformed
    | c :: rest =>
      if c == '"' then
        match block, ['"', '"'].isPrefixOf? rest with
        | false, _ =>
          set rest
          return read.reverse
        | true, some after =>
          set after
          return read.reverse
        | true, none =>
          set rest
          basicRest block fuel (c :: read)
      else if c == '\\' then
        set rest
        let piece <- escape block
        basicRest block fuel (piece.reverse ++ read)
      else if (if block then isForbiddenInBlock c else isForbidden c) then malformed
      else
        set rest
        basicRest block fuel (c :: read)

def upTo (delimiter : List Char) : List Char -> List Char -> Option (List Char × List Char)
  | _, [] => none
  | read, c :: rest =>
    match delimiter.isPrefixOf? (c :: rest) with
    | some after => some (read.reverse, after)
    | none => upTo delimiter (c :: read) rest

def literalRest (delimiter : List Char) (forbidden : Char -> Bool) : Reader (List Char) := do
  let (content, after) <- need (upTo delimiter [] (<- get))
  if content.any forbidden then malformed
  else
    set after
    return content

/-- At most two quotes that stand right before the closing ones belong to the content. -/
def extraQuotes (quote : Char) (content : List Char) : Reader (List Char) := do
  if <- accept [quote] then
    if <- accept [quote] then return content ++ [quote, quote]
    else return content ++ [quote]
  else return content

def skipFirstBreak : Reader Unit := do
  let _ <- accept ['\n']

def basicString (fuel : Nat) : Reader (List Char) := do
  if <- accept ['"', '"'] then
    skipFirstBreak
    extraQuotes '"' (<- basicRest true fuel [])
  else basicRest false fuel []

def literalString : Reader (List Char) := do
  if <- accept ['\x27', '\x27'] then
    skipFirstBreak
    extraQuotes '\x27' (<- literalRest ['\x27', '\x27', '\x27'] isForbiddenInBlock)
  else literalRest ['\x27'] isForbidden

def isBare (c : Char) : Bool :=
  Text.isAsciiDigit c || ('a' <= c && c <= 'z') || ('A' <= c && c <= 'Z') || c == '-' || c == '_'

def keyPart (fuel : Nat) : Reader String := do
  if <- accept ['"'] then return String.ofList (<- basicRest false fuel [])
  else if <- accept ['\x27'] then return String.ofList (<- literalRest ['\x27'] isForbidden)
  else
    let bare <- takeWhile isBare
    if bare.isEmpty then malformed else return String.ofList bare

def key : Nat -> Reader (List String)
  | 0 => malformed
  | fuel + 1 => do
    let part <- keyPart fuel
    skipWhile isBlank
    if <- accept ['.'] then
      skipWhile isBlank
      return part :: (<- key fuel)
    else return [part]

def fixedDigits? (width : Nat) (text : List Char) : Option (Nat × List Char) :=
  let digits := text.take width
  if digits.length == width && digits.all Text.isAsciiDigit
  then some (Text.radixValue 10 digits, text.drop width) else none

def ranged? (width least most : Nat) (text : List Char) : Option (Nat × List Char) := do
  let (number, rest) <- fixedDigits? width text
  if least <= number && number <= most then some (number, rest) else none

def date? (text : List Char) : Option (Date × List Char) := do
  let (year, rest) <- fixedDigits? 4 text
  let (month, rest) <- ranged? 2 1 12 (<- ['-'].isPrefixOf? rest)
  let (day, rest) <- ranged? 2 1 31 (<- ['-'].isPrefixOf? rest)
  some (⟨year, month, day⟩, rest)

/-- The digits of a fraction of a second, of which six count. -/
def micros (text : List Char) : Nat × List Char :=
  match text with
  | '.' :: rest =>
    let digits := rest.takeWhile Text.isAsciiDigit
    if digits.isEmpty then (0, text)
    else
      let counted := digits.take 6
      (Text.radixValue 10 counted * Nat.pow 10 (6 - counted.length), rest.drop digits.length)
  | _ => (0, text)

def time? (text : List Char) : Option (Time × List Char) := do
  let (hour, rest) <- ranged? 2 0 23 text
  let (minute, rest) <- ranged? 2 0 59 (<- [':'].isPrefixOf? rest)
  let (second, rest) <- ranged? 2 0 59 (<- [':'].isPrefixOf? rest)
  let (micro, rest) := micros rest
  some (⟨hour, minute, second, micro⟩, rest)

def offset? (text : List Char) : Option (Int × List Char) :=
  match text with
  | 'Z' :: rest | 'z' :: rest => some (0, rest)
  | sign :: rest => do
    let (hour, rest) <- ranged? 2 0 23 rest
    let (minute, rest) <- ranged? 2 0 59 (<- [':'].isPrefixOf? rest)
    let minutes : Int := 60 * hour + minute
    if sign == '+' then some (minutes, rest)
    else if sign == '-' then some (-minutes, rest)
    else none
  | [] => none

def isTimeMark (c : Char) : Bool := c == 'T' || c == 't' || c == ' '

def dateRest (date : Date) (text : List Char) : Value × List Char :=
  match (if text.head?.any isTimeMark then time? text.tail else none) with
  | none => (.date date, text)
  | some (time, rest) =>
    match offset? rest with
    | some (offset, rest) => (.moment date time (some offset), rest)
    | none => (.moment date time none, rest)

def isLeap (year : Nat) : Bool := year % 4 == 0 && (year % 100 != 0 || year % 400 == 0)

def daysIn (year month : Nat) : Nat :=
  if month == 2 then (if isLeap year then 29 else 28)
  else if [4, 6, 9, 11].contains month then 30 else 31

def Date.isValid (date : Date) : Bool :=
  0 < date.year && date.day <= daysIn date.year date.month

def groupedRest (test : Char -> Bool) : List Char -> List Char × List Char
  | '_' :: c :: rest =>
    if test c then
      let (digits, after) := groupedRest test rest
      (c :: digits, after)
    else ([], '_' :: c :: rest)
  | c :: rest =>
    if test c then
      let (digits, after) := groupedRest test rest
      (c :: digits, after)
    else ([], c :: rest)
  | [] => ([], [])

def grouped? (test : Char -> Bool) : List Char -> Option (List Char × List Char)
  | c :: rest =>
    if test c then
      let (digits, after) := groupedRest test rest
      some (c :: digits, after)
    else none
  | [] => none

def isBinaryDigit (c : Char) : Bool := c == '0' || c == '1'

def radixNumber? (text : List Char) : Option (Int × List Char) :=
  match text with
  | '0' :: 'x' :: rest => (grouped? Text.isHexDigit rest).map fun (digits, after) =>
    (Int.ofNat (Text.radixValue 16 digits), after)
  | '0' :: 'b' :: rest => (grouped? isBinaryDigit rest).map fun (digits, after) =>
    (Int.ofNat (Text.radixValue 2 digits), after)
  | '0' :: 'o' :: rest => (grouped? Text.isOctalDigit rest).map fun (digits, after) =>
    (Int.ofNat (Text.radixValue 8 digits), after)
  | _ => none

/-- The whole part of a decimal number: nothing but a zero may start with one. -/
def whole? (text : List Char) : Option (List Char × List Char) :=
  match text with
  | '0' :: rest => some (['0'], rest)
  | _ => grouped? Text.isAsciiDigit text

def fraction? (text : List Char) : Option (List Char × List Char) := do
  grouped? Text.isAsciiDigit (<- ['.'].isPrefixOf? text)

def signOf (text : List Char) : Bool × List Char :=
  match text with
  | '-' :: rest => (true, rest)
  | '+' :: rest => (false, rest)
  | _ => (false, text)

def exponent? (text : List Char) : Option (Int × List Char) :=
  match text with
  | 'e' :: rest | 'E' :: rest => do
    let (negative, rest) := signOf rest
    let (digits, after) <- grouped? Text.isAsciiDigit rest
    let value : Int := Text.radixValue 10 digits
    some (if negative then -value else value, after)
  | _ => none

def decimalNumber (negative : Bool) (whole rest : List Char) : Except Flaw (Value × List Char) :=
  match fraction? rest, exponent? rest with
  | none, none =>
    -- Floats may have any number of digits.
    if Text.numeralLimit < whole.length then .error (.longNumeral ⟨some whole.length⟩)
    else
      let value : Int := Text.radixValue 10 whole
      .ok (.integer (if negative then -value else value), rest)
  | some (digits, after), _ =>
    let (power, after) := (exponent? after).getD (0, after)
    .ok (.float (.ofDecimal negative (Text.radixValue 10 (whole ++ digits)) (power - digits.length)),
      after)
  | none, some (power, after) =>
    .ok (.float (.ofDecimal negative (Text.radixValue 10 whole) power), after)

def specialNumber? (text : List Char) : Option (Value × List Char) :=
  let (negative, rest) := signOf text
  match "inf".toList.isPrefixOf? rest with
  | some after => some (.float (.infinite negative), after)
  | none => ("nan".toList.isPrefixOf? rest).map fun after => (.float .nan, after)

def number? (text : List Char) : Except Flaw (Option (Value × List Char)) :=
  match radixNumber? text with
  | some (value, after) => .ok (some (.integer value, after))
  | none =>
    let (negative, unsigned) := signOf text
    match whole? unsigned with
    | some (whole, rest) => (decimalNumber negative whole rest).map some
    | none => .ok (specialNumber? text)

/-- A date, a time or a number. A date that is not in the calendar is refused. -/
def plainValue : Reader Value := do
  let text <- get
  match date? text with
  | some (date, rest) =>
    if Date.isValid date then
      let (value, rest) := dateRest date rest
      set rest
      return value
    else malformed
  | none =>
    match time? text with
    | some (time, rest) =>
      set rest
      return .time time
    | none =>
      let (value, rest) <- need (<- number? text)
      set rest
      return value

mutual

def value : Nat -> Reader Value
  | 0 => malformed
  | fuel + 1 => do
    if <- accept ['"'] then return .string (String.ofList (<- basicString fuel))
    else if <- accept ['\x27'] then return .string (String.ofList (<- literalString))
    else if <- accept "true".toList then return .boolean true
    else if <- accept "false".toList then return .boolean false
    else if <- accept ['['] then
      skipFiller fuel
      return .array (<- arrayRest fuel)
    else if <- accept ['\x7b'] then
      skipWhile isBlank
      if <- accept ['\x7d'] then return .table []
      else return .table (<- inlineRest fuel {})
    else plainValue

def arrayRest : Nat -> Reader (List Value)
  | 0 => malformed
  | fuel + 1 => do
    if <- accept [']'] then return []
    else
      let item <- value fuel
      skipFiller fuel
      if <- accept [','] then
        skipFiller fuel
        return item :: (<- arrayRest fuel)
      else
        expect [']']
        return [item]

def inlineRest : Nat -> InlineDraft -> Reader Table
  | 0, _ => malformed
  | fuel + 1, draft => do
    let path <- key fuel
    expect ['=']
    skipWhile isBlank
    let item <- value fuel
    let draft <- need (draft.add path item)
    skipWhile isBlank
    if <- accept ['\x7d'] then return draft.root
    else
      expect [',']
      skipWhile isBlank
      inlineRest fuel draft

end

def isKeyStart (c : Char) : Bool := isBare c || c == '"' || c == '\x27'

def statement (fuel : Nat) : Reader (Option Statement) := do
  if (<- peek).any isKeyStart then
    let path <- key fuel
    expect ['=']
    skipWhile isBlank
    return some (.entry path (<- value fuel))
  else if <- accept ['[', '['] then
    skipWhile isBlank
    let path <- key fuel
    expect [']', ']']
    return some (.itemHeader path)
  else if <- accept ['['] then
    skipWhile isBlank
    let path <- key fuel
    expect [']']
    return some (.header path)
  else return none

def addTo (draft : Draft) : Option Statement -> Reader Draft
  | some statement => need (draft.add statement)
  | none => return draft

def lines : Nat -> Draft -> Reader Draft
  | 0, _ => malformed
  | fuel + 1, draft => do
    skipWhile isBlank
    let draft <- addTo draft (<- statement fuel)
    skipWhile isBlank
    skipComment
    match <- get with
    | [] => return draft
    | c :: rest =>
      if c == '\n' then
        set rest
        lines fuel draft
      else malformed

end Reader

/-- A carriage return right before a line feed is dropped. -/
def joinBreaks (text : List Char) : List Char :=
  (text.zip (text.drop 1 ++ [' '])).filterMap fun (c, next) =>
    if c == '\r' && next == '\n' then none else some c

def parse (text : String) : Except Flaw Table :=
  let chars := joinBreaks text.toList
  ((Reader.lines (2 * chars.length + 2) {}).run chars).map fun result => result.1.root

end BibEdit.Toml
