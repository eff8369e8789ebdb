import BibEdit.Regex.Charset

set_option autoImplicit false

namespace BibEdit.Regex

/-- A position in the text, and the marks left so far, the latest first: group `i` opens at mark
`2 * i` and closes at mark `2 * i + 1`. -/
structure Cursor where
  pos : Nat
  marks : List (Nat × Nat)
  deriving DecidableEq

def Cursor.mark (cursor : Cursor) (index : Nat) : Cursor :=
  { cursor with marks := (index, cursor.pos) :: cursor.marks }

/-- Where a group that has been opened and closed lies. A group that was opened again after it was
closed counts only if it would not end before it starts. -/
def Cursor.span? (cursor : Cursor) (group : Nat) : Option (Nat × Nat) := do
  let start <- cursor.marks.lookup (2 * group)
  let stop <- cursor.marks.lookup (2 * group + 1)
  if stop < start then none else some (start, stop)

def codeAt (text : Array Char) (pos : Nat) : Option Nat := text[pos]?.map Char.toNat

def wordAt (ascii : Bool) (text : Array Char) (pos : Nat) : Bool :=
  match codeAt text pos with
  | some code => Class.word.has ascii code
  | none => false

def isLineBreak (text : Array Char) (pos : Nat) : Bool := text[pos]? == some '\n'

def wordBefore (ascii : Bool) (text : Array Char) (pos : Nat) : Bool :=
  0 < pos && wordAt ascii text (pos - 1)

/-- An empty text has neither boundaries nor places that are none. -/
def Anchor.holds (text : Array Char) (pos : Nat) : Anchor -> Bool
  | .textStart => pos == 0
  | .lineStart => pos == 0 || isLineBreak text (pos - 1)
  | .textEnd => pos == text.size || (pos + 1 == text.size && isLineBreak text pos)
  | .lineEnd => pos == text.size || isLineBreak text pos
  | .veryEnd => pos == text.size
  | .boundary ascii => text.size != 0 && wordBefore ascii text pos != wordAt ascii text pos
  | .noBoundary ascii => text.size != 0 && wordBefore ascii text pos == wordAt ascii text pos

def sameRun (casing : Casing) (text : Array Char) : Nat -> Nat -> Nat -> Bool
  | 0, _, _ => true
  | count + 1, start, pos =>
    match codeAt text start, codeAt text pos with
    | some a, some b =>
      casing.lower a == casing.lower b && sameRun casing text count (start + 1) (pos + 1)
    | _, _ => false

abbrev Goal := Cursor -> Option Cursor

def step (text : Array Char) (accepts : Nat -> Bool) (goal : Goal) (cursor : Cursor) :
    Option Cursor :=
  match codeAt text cursor.pos with
  | some code => if accepts code then goal { cursor with pos := cursor.pos + 1 } else none
  | none => none

def exactly (body : Goal -> Goal) : Nat -> Goal -> Goal
  | 0, goal => goal
  | count + 1, goal => body (exactly body count goal)

def budgetLeft : Option Nat -> Bool
  | some 0 => false
  | _ => true

def budgetSpent : Option Nat -> Option Nat
  | some (n + 1) => some n
  | budget => budget

/-- A body that may match up to `budget` times, preferably often. No turn follows one that
consumed nothing: `last` is where the turn before began. -/
def often (body : Goal -> Goal) (goal : Goal) : Nat -> Option Nat -> Option Nat -> Goal
  | 0, _, _, _ => none
  | fuel + 1, budget, last, cursor =>
    if budgetLeft budget && last != some cursor.pos then
      match body (often body goal fuel (budgetSpent budget) (some cursor.pos)) cursor with
      | some found => some found
      | none => goal cursor
    else goal cursor

def seldom (body : Goal -> Goal) (goal : Goal) : Nat -> Option Nat -> Option Nat -> Goal
  | 0, _, _, _ => none
  | fuel + 1, budget, last, cursor =>
    match goal cursor with
    | some found => some found
    | none =>
      if budgetLeft budget && last != some cursor.pos
      then body (seldom body goal fuel (budgetSpent budget) (some cursor.pos)) cursor
      else none

/-- A body matched `count` times without a way back. -/
def exactlyOnce (body : Goal) : Nat -> Goal
  | 0, cursor => some cursor
  | count + 1, cursor => (body cursor).bind (exactlyOnce body count)

/-- A body matched as often as it will go, without a way back. -/
def asOftenAsItGoes (body : Goal) : Nat -> Option Nat -> Option Nat -> Cursor -> Cursor
  | 0, _, _, cursor => cursor
  | fuel + 1, budget, last, cursor =>
    if budgetLeft budget && last != some cursor.pos then
      match body cursor with
      | some next => asOftenAsItGoes body fuel (budgetSpent budget) (some cursor.pos) next
      | none => cursor
    else cursor

/-- Turns enough: each turn but one consumes a character. -/
def turns (text : Array Char) (cursor : Cursor) : Nat := text.size - cursor.pos + 2

/-- The first way, in order of preference, to match a part of a pattern at a cursor and then to
reach the goal. -/
def run (text : Array Char) : Node -> Goal -> Goal
  | .empty, goal, cursor => goal cursor
  | .any newline, goal, cursor => step text (fun code => newline || code != 0xa) goal cursor
  | .literal negated letter casing, goal, cursor =>
    step text (fun code => casing.same letter code != negated) goal cursor
  | .set negated members casing ascii, goal, cursor =>
    step text (fun code => setHas members casing ascii code != negated) goal cursor
  | .anchor kind, goal, cursor => if kind.holds text cursor.pos then goal cursor else none
  | .backref group casing, goal, cursor =>
    match cursor.span? group with
    | some (start, stop) =>
      if sameRun casing text (stop - start) start cursor.pos
      then goal { cursor with pos := cursor.pos + (stop - start) }
      else none
    | none => none
  | .seq first rest, goal, cursor => run text first (run text rest goal) cursor
  | .alt first rest, goal, cursor =>
    match run text first goal cursor with
    | some found => some found
    | none => run text rest goal cursor
  | .group index body, goal, cursor =>
    run text body (fun inner => goal (inner.mark (2 * index + 1))) (cursor.mark (2 * index))
  | .scope body, goal, cursor => run text body goal cursor
  | .atomic body, goal, cursor => (run text body some cursor).bind goal
  | .lookAhead negated body, goal, cursor =>
    -- What was seen ahead is not consumed, but its groups stay.
    match run text body some cursor with
    | some seen => if negated then none else goal { seen with pos := cursor.pos }
    | none => if negated then goal cursor else none
  | .lookBehind negated width body, goal, cursor =>
    -- Nothing of that width lies behind a place so close to the start.
    if cursor.pos < width.least then (if negated then goal cursor else none)
    else
      match run text body some { cursor with pos := cursor.pos - width.least } with
      | some seen => if negated then none else goal { seen with pos := cursor.pos }
      | none => if negated then goal cursor else none
  | .cond group yes no, goal, cursor =>
    if (cursor.span? group).isSome then run text yes goal cursor else run text no goal cursor
  | .rep .greedy least most body, goal, cursor =>
    exactly (run text body) least
      (fun start => often (run text body) goal (turns text start) (most.map (· - least)) none start)
      cursor
  | .rep .lazy least most body, goal, cursor =>
    exactly (run text body) least
      (fun start => seldom (run text body) goal (turns text start) (most.map (· - least)) none start)
      cursor
  | .rep .possessive least most body, goal, cursor =>
    (exactlyOnce (run text body some) least cursor).bind fun start =>
      goal (asOftenAsItGoes (run text body some) (turns text start) (most.map (· - least)) none start)

end BibEdit.Regex
