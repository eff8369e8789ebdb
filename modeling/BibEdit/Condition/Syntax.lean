import BibEdit.Condition.Basic
import BibEdit.Console.Style

set_option autoImplicit false

namespace BibEdit.Condition

def escape (text : List Char) : List Char :=
  text.flatMap fun c => if c == ':' then [':', ':'] else [c]

@[simp] theorem escape_nil : escape [] = [] := rfl

/-- What was read up to a terminator, unescaped; how many characters that took, with the
terminator; and whether there was one. -/
structure Taken where
  text : List Char
  consumed : Nat
  terminated : Bool
  deriving DecidableEq

def Taken.prepend (c : Char) (width : Nat) (taken : Taken) : Taken :=
  { taken with text := c :: taken.text, consumed := taken.consumed + width }

/-- Reads up to the terminator. Written twice, it stands for itself. -/
def takeUntil (terminator : Option Char) : List Char -> Taken
  | [] => ⟨[], 0, false⟩
  | [c] => if terminator == some c then ⟨[], 1, true⟩ else ⟨[c], 1, false⟩
  | c :: d :: rest =>
    if terminator == some c then
      if d == c then (takeUntil terminator rest).prepend c 2 else ⟨[], 1, true⟩
    else (takeUntil terminator (d :: rest)).prepend c 1

def take (text : List Char) : Taken := takeUntil (some ':') text

inductive Flaw where
  | noColon
  | noField
  | noPattern
  | noFlags
  | secondKind
  | unknownFlag
  | extraInput
  deriving DecidableEq

def supportedFlags : String :=
  "`c` (case sensitive), `r` (regex), `e` (exact), `s` (substring), `l` (SQL LIKE), `g` (SQL GLOB)"

def Flaw.feedback : Flaw -> String
  | .noColon => "Expected to find ':' after the field, found end of string."
  | .noField =>
    "No field specified: Please specify a field, such as `title` or `creator.lastName`."
  | .noPattern => "No pattern specified: Please specify a pattern after the field."
  | .noFlags =>
    "No flags specified: Please remove this section (by deleting the colon) or specify one of the " ++
      "supported flags: " ++ supportedFlags ++ "."
  | .secondKind =>
    "Multiple pattern types specified: Please specify at most one of `r`, `e`, `s`, `l`, `g`."
  | .unknownFlag =>
    "Unrecognized flag: Please specify one of the supported flags: " ++ supportedFlags ++ "."
  | .extraInput =>
    "Extra input found after end of condition. Perhaps you meant to escape this colon?"

structure SyntaxError where
  condition : List Char
  index : Nat
  flaw : Flaw
  deriving DecidableEq

def spaces (count : Nat) : List Char := List.replicate count ' '

def SyntaxError.message [Console.Styling] (error : SyntaxError) : List Char :=
  "Failed to parse condition, invalid syntax:\n\n    ".toList ++ error.condition ++
    "\n    ".toList ++ spaces error.index ++
    Console.Style.paint { color := some .red } ['^'] ++
    "\n    ".toList ++ spaces error.index ++
    Console.Style.paint { bold := true } error.flaw.feedback.toList ++ ['\n']

def operatorText : Operator -> List Char
  | .and => "and/".toList
  | .or => "or/".toList
  | .andNot => "and-not/".toList
  | .orNot => "or-not/".toList

def operator? (raw : List Char) : Option (Operator × List Char) :=
  -- No text of an operator starts another one, so their order is free.
  [Operator.andNot, .orNot, .and, .or].findSome? fun operator =>
    ((operatorText operator).isPrefixOf? raw).map (operator, ·)

def kindOfFlag? : Char -> Option PatternKind
  | 'r' => some .regex
  | 'e' => some .exact
  | 's' => some .contains
  | 'l' => some .like
  | 'g' => some .glob
  | _ => none

def flagOfKind? : PatternKind -> Option Char
  | .regex => some 'r'
  | .exact => some 'e'
  | .contains => some 's'
  | .like => some 'l'
  | .glob => some 'g'
  | .other _ => none

structure FlagSet where
  kind : Option PatternKind := none
  caseSensitive : Bool := false
  deriving DecidableEq

def readFlags : Nat -> FlagSet -> List Char -> Except (Nat × Flaw) FlagSet
  | _, flags, [] => .ok flags
  | index, flags, c :: rest =>
    if c == 'c' then readFlags (index + 1) { flags with caseSensitive := true } rest
    else
      match kindOfFlag? c with
      | none => .error (index, .unknownFlag)
      | some kind =>
        if flags.kind.isSome then .error (index, .secondKind)
        else readFlags (index + 1) { flags with kind := some kind } rest

def readFlagSection (index : Nat) (text : List Char) : Except (Nat × Flaw) FlagSet := do
  let taken := take text
  if taken.text.isEmpty then .error (index, .noFlags)
  else
    let flags <- readFlags index {} taken.text
    if (text.drop taken.text.length).isEmpty then .ok flags
    else .error (index + taken.text.length, .extraInput)

/-- Reads what follows the operator; `index` is where it starts. -/
def readBody (operator : Operator) (index : Nat) (text : List Char) :
    Except (Nat × Flaw) Condition := do
  let field := text.takeWhile (· != ':')
  match text.dropWhile (· != ':') with
  | [] => .error (index + text.length, .noColon)
  | _ :: rest =>
    if field.isEmpty then .error (index, .noField)
    else
      let index := index + field.length + 1
      let taken := take rest
      if taken.text.isEmpty then .error (index, .noPattern)
      else
        let flags <-
          if taken.terminated
          then readFlagSection (index + taken.consumed) (rest.drop taken.consumed)
          else .ok {}
        .ok {
          field := String.ofList field
          pattern := String.ofList taken.text
          kind := flags.kind.getD .regex
          caseSensitive := flags.caseSensitive
          operator := operator }

def readAfterOperator (raw : List Char) : Except (Nat × Flaw) Condition :=
  match operator? raw with
  | some (operator, rest) => readBody operator (operatorText operator).length rest
  | none => readBody .and 0 raw

def parse (raw : String) : Except SyntaxError Condition :=
  (readAfterOperator raw.toList).mapError fun (index, flaw) => ⟨raw.toList, index, flaw⟩

/-- The flags that say what the defaults do not; nothing for a kind without a flag. -/
def flagsText? (condition : Condition) : Option (List Char) := do
  let sensitive := if condition.caseSensitive then ['c'] else []
  if condition.kind == .regex then return sensitive
  else return sensitive ++ [<- flagOfKind? condition.kind]

def renderChars? (condition : Condition) : Option (List Char) := do
  let flags <- flagsText? condition
  let operator := if condition.operator == .and then [] else operatorText condition.operator
  let flagSection := if flags.isEmpty then [] else ':' :: flags
  return operator ++ condition.field.toList ++ ':' :: escape condition.pattern.toList ++ flagSection

/-- The condition as it is written. A condition of an unknown kind has no written form. -/
def render? (condition : Condition) : Option String := (renderChars? condition).map String.ofList

end BibEdit.Condition
