import BibEdit.Regex.Charset
import BibEdit.Text.Numeral

set_option autoImplicit false

namespace BibEdit.Literal

/-- A character that a match must contain where it stands, or a place where anything may stand. -/
abbrev Stream := List (Option Char)

def isAlnum (c : Char) : Bool := Regex.isAsciiWord c.toNat && c != '_'

/-- The maximal runs of ASCII letters and digits; `run` holds the one being read, backwards. -/
def alnumRuns : List Char -> Stream -> List (List Char)
  | run, [] => [run.reverse]
  | run, none :: rest => run.reverse :: alnumRuns [] rest
  | run, some c :: rest =>
    if isAlnum c then alnumRuns (c :: run) rest else run.reverse :: alnumRuns [] rest

def longer (best candidate : List Char) : List Char :=
  if best.length < candidate.length then candidate else best

/-- The first of the longest runs, if it has at least two characters. -/
def longestRun? (stream : Stream) : Option (List Char) :=
  let best := (alnumRuns [] stream).foldl longer []
  if 2 <= best.length then some best else none

def longestAlnumRun? (text : List Char) : Option (List Char) := longestRun? (text.map some)

def isDigit (c : Char) : Bool := Unicode.isDigit c.toNat

/-- One more than the place of a character after the first, or the length of the text. -/
def throughFrom (c : Char) (text : List Char) : Nat :=
  let before := (text.takeWhile (· != c)).length
  if before < text.length then before + 1 else text.length

/-- The width of an escape; `after` follows the backslash. -/
def escapeWidth (after : List Char) : Nat :=
  match after with
  | [] => 2
  | c :: _ =>
    if c == 'x' then 4
    else if c == 'u' then 6
    else if c == 'U' then 10
    else if c == 'N' then 1 + throughFrom '\x7d' after
    else if isDigit c then 1 + (after.takeWhile isDigit).length
    else 2

/-- The number of characters up to and with a closing character that no backslash precedes. -/
def throughClosing (closing : Char) : List Char -> Nat
  | [] => 0
  | '\\' :: _ :: rest => 2 + throughClosing closing rest
  | c :: rest => if c == closing then 1 else 1 + throughClosing closing rest

/-- The width of a set; `after` follows its opening bracket, a bracket that closes nothing may
come first. -/
def setWidth (after : List Char) : Nat :=
  match after with
  | '^' :: ']' :: rest => 3 + throughClosing ']' rest
  | '^' :: rest => 2 + throughClosing ']' rest
  | ']' :: rest => 2 + throughClosing ']' rest
  | rest => 1 + throughClosing ']' rest

structure Quantifier where
  width : Nat
  optional : Bool

/-- A quantifier in braces; `after` follows the opening one. A least count that is too long to be
read is an error. -/
def braces? (after : List Char) : Except Text.LongNumeral (Option Quantifier) := do
  let low := after.takeWhile Text.isDecimalDigit
  let rest := after.drop low.length
  let comma := rest.head? == some ','
  let rest := if comma then rest.tail else rest
  let high := if comma then rest.takeWhile Text.isDecimalDigit else []
  let rest := rest.drop high.length
  if rest.head? != some '\x7d' || (low.isEmpty && high.isEmpty) then return none
  else
    let width := low.length + (if comma then 1 else 0) + high.length + 2
    if low.isEmpty then return some ⟨width, true⟩
    else return some ⟨width, (<- Text.runValue low) == 0⟩

def quantifier? (c : Char) (after : List Char) : Except Text.LongNumeral (Option Quantifier) :=
  if c == '?' || c == '*' then .ok (some ⟨1, true⟩)
  else if c == '+' then .ok (some ⟨1, false⟩)
  else braces? after

inductive Header where
  | group (width : Nat) (discarded : Bool)
  | none
  | verbose

def isFlagChar (c : Char) : Bool := "aiLmsux-".toList.contains c

def nameHeader (after : List Char) : Header :=
  if after.contains '>' then .group (1 + throughFrom '>' after) false else .none

def header (after : List Char) : Header :=
  match after with
  | '?' :: ':' :: _ => .group 3 false
  | '?' :: 'P' :: '<' :: _ => nameHeader after
  | '?' :: '<' :: '=' :: _ => .group 4 true
  | '?' :: '<' :: '!' :: _ => .group 4 true
  | '?' :: '<' :: _ => nameHeader after
  | '?' :: '=' :: _ => .group 3 true
  | '?' :: '!' :: _ => .group 3 true
  | '?' :: '>' :: _ => .group 3 true
  | '?' :: 'P' :: '=' :: _ => .none
  | '?' :: '#' :: _ => .none
  | '?' :: '(' :: _ => .none
  | '?' :: rest =>
    let flags := rest.takeWhile isFlagChar
    if (flags.takeWhile (· != '-')).contains 'x' then .verbose
    else if (rest.drop flags.length).head? == some ':' then .group (3 + flags.length) false
    else .none
  | _ => .group 1 false

structure Walk where
  stream : Stream
  /-- Where each open group began, and whether its content is given up when it closes. -/
  groups : List (Nat × Bool)
  /-- Where the part that a quantifier would repeat began. -/
  lastAtom : Option Nat

def Walk.start : Walk := ⟨[], [], none⟩

def Walk.breakHere (walk : Walk) (lastAtom : Option Nat) : Walk :=
  { walk with stream := walk.stream ++ [none], lastAtom := lastAtom }

def Walk.cut (walk : Walk) (position : Nat) : Walk :=
  { walk with stream := walk.stream.take position }

def Walk.quantify (walk : Walk) (optional : Bool) : Walk :=
  let walk := if optional then (match walk.lastAtom with
    | some position => walk.cut position
    | none => walk) else walk
  walk.breakHere none

/-- A lazy or possessive mark after a quantifier belongs to it. -/
def markWidth (rest : List Char) : Nat :=
  if rest.head? == some '?' || rest.head? == some '+' then 1 else 0

/-- Where the walk goes from here, and how many characters it passes over; nothing if the pattern
has no literal that can be trusted. -/
def step (walk : Walk) (c : Char) (after : List Char) :
    Except Text.LongNumeral (Option (Walk × Nat)) := do
  if c == '\\' then return some (walk.breakHere none, escapeWidth after)
  else if c == '[' then return some (walk.breakHere none, setWidth after)
  else if c == '?' || c == '*' || c == '+' || c == '\x7b' then
    match <- quantifier? c after with
    | none => return some (walk.breakHere none, 1)
    | some quantifier =>
      let width := quantifier.width + markWidth (after.drop (quantifier.width - 1))
      return some (walk.quantify quantifier.optional, width)
  else if c == '(' then
    match header after with
    | .verbose => return none
    | .none => return some (walk.breakHere none, 1 + throughClosing ')' after)
    | .group width discarded =>
      let groups := (walk.stream.length, discarded) :: walk.groups
      return some ({ walk with stream := walk.stream ++ [none], groups := groups }, width)
  else if c == ')' then
    match walk.groups with
    | [] => return none
    | (start, discarded) :: groups =>
      -- What a look-around saw need not be part of the match.
      let walk := if discarded then walk.cut start else walk
      return some ({ walk.breakHere (some start) with groups := groups }, 1)
  else if c == '.' || c == '^' || c == '$' || c == '|' then
    return some (walk.breakHere none, 1)
  else
    return some
      ({ walk with stream := walk.stream ++ [some c], lastAtom := some walk.stream.length }, 1)

/-- Walks over a pattern, of which `skip` characters have been dealt with already. -/
def walkFrom (walk : Walk) : Nat -> List Char -> Except Text.LongNumeral (Option Stream)
  | _, [] => .ok (some walk.stream)
  | skip + 1, _ :: rest => walkFrom walk skip rest
  | 0, c :: rest => do
    match <- step walk c rest with
    | none => return none
    | some (next, width) => walkFrom next (width - 1) rest

def extract (pattern : List Char) : Except Text.LongNumeral (Option (List Char)) := do
  match <- walkFrom .start 0 pattern with
  | some stream => return longestRun? stream
  | none => return none

end BibEdit.Literal
