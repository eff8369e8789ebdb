import BibEdit.Json.Basic
import BibEdit.Text.Numeral

set_option autoImplicit false

namespace BibEdit.Json

/-! Each reader gives what it read and the text after it. -/

def isSpace (c : Char) : Bool := c == ' ' || c == '\t' || c == '\n' || c == '\r'

def skipSpace (text : List Char) : List Char := text.dropWhile isSpace

def simpleEscape? : Char -> Option Char
  | '"' => some '"'
  | '\\' => some '\\'
  | '/' => some '/'
  | 'b' => some '\x08'
  | 'f' => some '\x0c'
  | 'n' => some '\n'
  | 'r' => some '\r'
  | 't' => some '\t'
  | _ => none

def unit? : List Char -> Option (Nat × List Char)
  | a :: b :: c :: d :: rest =>
    if [a, b, c, d].all Text.isHexDigit then some (Text.radixValue 16 [a, b, c, d], rest) else none
  | _ => none

def isHighUnit (unit : Nat) : Bool := 0xd800 <= unit && unit <= 0xdbff

def isLowUnit (unit : Nat) : Bool := 0xdc00 <= unit && unit <= 0xdfff

/-- A character given by one code unit or by two. -/
def codePoint? (text : List Char) : Option (Char × List Char) := do
  let (high, rest) <- unit? text
  match isHighUnit high, rest with
  | true, '\\' :: 'u' :: more =>
    let (low, after) <- unit? more
    -- A high unit that no low one follows is left alone.
    if isLowUnit low
    then some (Char.ofNat (0x10000 + (high - 0xd800) * 0x400 + (low - 0xdc00)), after)
    else some (Char.ofNat high, rest)
  | _, _ => some (Char.ofNat high, rest)

def stringRest : Nat -> List Char -> Option (List Char × List Char)
  | 0, _ => none
  | _, [] => none
  | fuel + 1, c :: rest =>
    if c == '"' then some ([], rest)
    else if c == '\\' then
      match rest with
      | 'u' :: more => do
        let (code, after) <- codePoint? more
        let (tail, after) <- stringRest fuel after
        some (code :: tail, after)
      | d :: more => do
        let plain <- simpleEscape? d
        let (tail, after) <- stringRest fuel more
        some (plain :: tail, after)
      | [] => none
    else if c.toNat < 0x20 then none
    else do
      let (tail, after) <- stringRest fuel rest
      some (c :: tail, after)

def string? (text : List Char) : Option (List Char × List Char) := stringRest (text.length + 1) text

def integerDigits (text : List Char) : List Char :=
  match text with
  | '0' :: _ => ['0']
  | _ => text.takeWhile Text.isAsciiDigit

def fractionWidth (text : List Char) : Nat :=
  match text with
  | '.' :: rest =>
    let digits := (rest.takeWhile Text.isAsciiDigit).length
    if digits = 0 then 0 else digits + 1
  | _ => 0

def exponentWidth (text : List Char) : Nat :=
  match text with
  | 'e' :: rest | 'E' :: rest =>
    let sign := match rest with
      | '+' :: _ | '-' :: _ => 1
      | _ => 0
    let digits := ((rest.drop sign).takeWhile Text.isAsciiDigit).length
    if digits = 0 then 0 else digits + sign + 1
  | _ => 0

def unsigned? (negative : Bool) (text : List Char) : Option (Json × List Char) :=
  let whole := integerDigits text
  if whole.isEmpty then none
  else
    let rest := text.drop whole.length
    let fraction := rest.take (fractionWidth rest)
    let rest := rest.drop fraction.length
    let exponent := rest.take (exponentWidth rest)
    let rest := rest.drop exponent.length
    let value : Int := Text.radixValue 10 whole
    if fraction.isEmpty && exponent.isEmpty
    then some (.integer (if negative then -value else value), rest)
    else some (.real (value == 0 && fraction.all fun c => c == '.' || c == '0'), rest)

def number? : List Char -> Option (Json × List Char)
  | '-' :: rest => unsigned? true rest
  | text => unsigned? false text

/-- Words that stand for a value; the three that are no finite number are allowed. -/
def words : List (List Char × Json) := [
  ("null".toList, .null), ("true".toList, .boolean true), ("false".toList, .boolean false),
  ("NaN".toList, .real false), ("Infinity".toList, .real false), ("-Infinity".toList, .real false)]

def word? (text : List Char) : Option (Json × List Char) :=
  words.findSome? fun (word, value) => (word.isPrefixOf? text).map (value, ·)

mutual

def value? : Nat -> List Char -> Option (Json × List Char)
  | 0, _ => none
  | fuel + 1, text =>
    match text with
    | '"' :: rest => do
      let (content, after) <- string? rest
      some (.string content, after)
    | '[' :: rest =>
      match skipSpace rest with
      | ']' :: after => some (.array [], after)
      | inner => do
        let (items, after) <- items? fuel inner
        some (.array items, after)
    | '\x7b' :: rest =>
      match skipSpace rest with
      | '\x7d' :: after => some (.object [], after)
      | inner => do
        let (entries, after) <- entries? fuel inner
        some (.object entries, after)
    | _ => (word? text).orElse fun _ => number? text

def items? : Nat -> List Char -> Option (List Json × List Char)
  | 0, _ => none
  | fuel + 1, text => do
    let (item, after) <- value? fuel text
    match skipSpace after with
    | ']' :: after => some ([item], after)
    | ',' :: more =>
      let (items, after) <- items? fuel (skipSpace more)
      some (item :: items, after)
    | _ => none

def entries? : Nat -> List Char -> Option (List (List Char × Json) × List Char)
  | 0, _ => none
  | fuel + 1, text =>
    match text with
    | '"' :: rest => do
      let (key, after) <- string? rest
      match skipSpace after with
      | ':' :: more =>
        let (value, after) <- value? fuel (skipSpace more)
        match skipSpace after with
        | '\x7d' :: after => some ([(key, value)], after)
        | ',' :: more =>
          let (entries, after) <- entries? fuel (skipSpace more)
          some ((key, value) :: entries, after)
        | _ => none
      | _ => none
    | _ => none

end

def parse? (text : List Char) : Option Json := do
  let (value, rest) <- value? (2 * text.length + 2) (skipSpace text)
  if (skipSpace rest).isEmpty then some value else none

end BibEdit.Json
